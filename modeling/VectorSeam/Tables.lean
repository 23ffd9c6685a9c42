import Mathlib

/-!
Sums over the entries of a table, and facts about all of its entries. Changing one entry
of a table changes such a sum by the weight of that entry alone.
-/

namespace VectorSeam.Tables

variable {K V : Type} [DecidableEq K]

/-- A table from keys to values, one value a key. -/
abbrev Table (K V : Type) := AList fun _ : K => V

/-- The entries of a table, weighed and added up. -/
def total (weight : K → V → Nat) (table : Table K V) : Nat := (table.entries.map fun entry => weight entry.1 entry.2).sum

/-- The weight of the entry of a key, nothing if there is none. -/
def share (weight : K → V → Nat) (key : K) (table : Table K V) : Nat :=
  match table.lookup key with
  | none => 0
  | some value => weight key value

variable {weight weight' : K → V → Nat} {key other : K} {value : V} {table : Table K V}

omit [DecidableEq K] in
@[simp] theorem total_empty : total weight (∅ : Table K V) = 0 := rfl

@[simp] theorem share_empty : share weight key (∅ : Table K V) = 0 := rfl

theorem share_eq (found : table.lookup key = some value) : share weight key table = weight key value := by
  simp only [share, found]

theorem share_none (missing : table.lookup key = none) : share weight key table = 0 := by
  simp only [share, missing]

theorem total_erase (weight : K → V → Nat) (key : K) (table : Table K V) :
    total weight (table.erase key) + share weight key table = total weight table := by
  cases found : table.lookup key with
  | none =>
    have missing : key ∉ table := AList.lookup_eq_none.mp found
    have same : (table.erase key).entries = table.entries := List.kerase_of_notMem_keys missing
    rw [share_none found, total, total, same, Nat.add_zero]
  | some value =>
    have member : key ∈ table.keys := AList.lookup_isSome.mp (by rw [found]; rfl)
    obtain ⟨there, front, back, -, split, rest⟩ := List.exists_of_kerase member
    have same : table.lookup key = some there :=
      AList.mem_lookup_iff.mpr (by rw [split]; simp)
    obtain rfl := Option.some.inj (found.symm.trans same)
    have remaining : (table.erase key).entries = front ++ back := rest
    rw [share_eq found, total, total, remaining, split]
    simp only [List.map_append, List.sum_append, List.map_cons, List.sum_cons]
    omega

theorem total_insert (weight : K → V → Nat) (key : K) (value : V) (table : Table K V) :
    total weight (table.insert key value) + share weight key table =
    total weight table + weight key value := by
  have erased := total_erase weight key table
  have inserted : total weight (table.insert key value) = weight key value + total weight (table.erase key) := by
    simp only [total, AList.entries_insert, AList.erase, List.map_cons, List.sum_cons]
  omega

theorem share_le_total (weight : K → V → Nat) (key : K) (table : Table K V) :
    share weight key table ≤ total weight table := by
  have erased := total_erase weight key table
  omega

theorem le_total (found : table.lookup key = some value) : weight key value ≤ total weight table := by
  have bound := share_le_total weight key table
  rwa [share_eq found] at bound

/-- A weight that looks at one key only. -/
theorem total_at (weight : V → Nat) :
    total (fun other value => if other = key then weight value else 0) table = (table.lookup key).elim 0 weight := by
  have erased := total_erase (fun other value => if other = key then weight value else 0) key table
  have nothing : total (fun other value => if other = key then weight value else 0) (table.erase key) = 0 := by
    refine List.sum_eq_zero fun part member => ?_
    obtain ⟨entry, inside, rfl⟩ := List.mem_map.mp member
    have found : (table.erase key).lookup entry.1 = some entry.2 := AList.mem_lookup_iff.mpr inside
    refine if_neg fun same => ?_
    rw [same, AList.lookup_erase] at found
    cases found
  cases found : table.lookup key with
  | none =>
    rw [share_none found] at erased
    simp only [Option.elim_none]
    omega
  | some value =>
    rw [share_eq found, if_pos rfl] at erased
    simp only [Option.elim_some]
    omega

/-- A sum over a table grows with the weights of its entries. -/
theorem total_mono (le : ∀ key value, table.lookup key = some value → weight key value ≤ weight' key value) :
    total weight table ≤ total weight' table := by
  refine List.sum_le_sum fun entry member => le entry.1 entry.2 ?_
  exact AList.mem_lookup_iff.mpr member

theorem total_congr (same : ∀ key value, table.lookup key = some value → weight key value = weight' key value) :
    total weight table = total weight' table :=
  le_antisymm (total_mono fun key value found => (same key value found).le)
    (total_mono fun key value found => (same key value found).ge)

omit [DecidableEq K] in
theorem total_mul (factor : Nat) : total (fun key value => factor * weight key value) table = factor * total weight table := by
  simp [total, List.sum_map_mul_left]

omit [DecidableEq K] in
/-- The number of entries is a sum of ones. -/
theorem total_one : total (fun _ _ => 1) table = table.entries.length := by
  simp [total]

/-! ### Facts about all entries -/

/-- Every entry has a property. -/
def Every (holds : K → V → Prop) (table : Table K V) : Prop := ∀ key value, table.lookup key = some value → holds key value

variable {holds holds' : K → V → Prop}

theorem every_empty : Every holds (∅ : Table K V) := by
  intro key value found
  rw [AList.lookup_empty] at found
  cases found

theorem Every.insert (every : Every holds table) (new : holds key value) : Every holds (table.insert key value) := by
  intro other value' found
  by_cases same : other = key
  · subst same
    rw [AList.lookup_insert] at found
    obtain rfl := Option.some.inj found
    exact new
  · rw [AList.lookup_insert_ne same] at found
    exact every other value' found

theorem Every.erase (every : Every holds table) : Every holds (table.erase key) := by
  intro other value found
  by_cases same : other = key
  · subst same
    rw [AList.lookup_erase] at found
    cases found
  · rw [AList.lookup_erase_ne same] at found
    exact every other value found

theorem Every.mono (every : Every holds table) (weaker : ∀ key value, table.lookup key = some value → holds key value →
    holds' key value) : Every holds' table :=
  fun key value found => weaker key value found (every key value found)

theorem Every.getD {default : V} (every : Every holds table) (empty : holds key default) :
    holds key ((table.lookup key).getD default) := by
  cases found : table.lookup key with
  | none => exact empty
  | some value => exact every key value found

end VectorSeam.Tables
