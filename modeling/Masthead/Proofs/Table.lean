import Mathlib.Data.List.Basic

/-!
# Tables

A table lists keys with their values.  Looking up a key gives the value of its first entry.  So an
entry that takes the place of the first one of its key changes what is looked up for that key only,
and where keys are listed once, looking up all of them in order gives all values in order.
-/

namespace Masthead

variable {κ γ : Type} [BEq κ] [LawfulBEq κ]

theorem lookup_cons_eq_ite
    [DecidableEq κ]
    (key first : κ) (value : γ) (table : List (κ × γ)) :
    List.lookup key ((first, value) :: table) =
      if key = first then some value else table.lookup key := by
  rw [List.lookup_cons]
  by_cases same : key = first
  · rw [same, beq_self_eq_true, if_pos rfl]
  · rw [beq_false_of_ne same, if_neg same]

/-- Where a key's entry is replaced, or else added, the key is given its new value and every other
key the old one. -/
theorem lookup_of_replaced
    [DecidableEq κ]
    {key : κ} {value : γ} (replace : List (κ × γ) → List (κ × γ))
    (onEmpty : replace [] = [(key, value)])
    (onEntry : ∀ entry rest, replace (entry :: rest) =
      if entry.1 == key then (key, value) :: rest else entry :: replace rest)
    (table : List (κ × γ)) (other : κ) :
    (replace table).lookup other = if other = key then some value else table.lookup other := by
  induction table with
  | nil => rw [onEmpty, lookup_cons_eq_ite]
  | cons entry rest ih =>
    rw [onEntry]
    by_cases here : entry.1 = key
    · rw [if_pos (beq_iff_eq.2 here), lookup_cons_eq_ite, lookup_cons_eq_ite, here]
      split <;> rfl
    · rw [if_neg (by simpa using here), lookup_cons_eq_ite, lookup_cons_eq_ite, ih]
      by_cases same : other = key
      · rw [if_neg (same ▸ Ne.symm here), if_pos same, if_pos same]
      · rw [if_neg same, if_neg same]

theorem lookup_eq_none_of_notMem
    {key : κ} {table : List (κ × γ)}
    (absent : key ∉ table.map (·.1)) :
    table.lookup key = none := by
  rw [List.lookup_eq_none_iff]
  intro entry member
  have other : key ≠ entry.1 := by
    rintro rfl
    exact absent (List.mem_map_of_mem member)
  simpa using other

/-- Leaving out the entries of one key changes nothing for the others. -/
theorem lookup_filter_of_ne
    {key other : κ}
    (different : key ≠ other)
    (table : List (κ × γ)) :
    (table.filter (·.1 != other)).lookup key = table.lookup key := by
  induction table with
  | nil => rfl
  | cons entry rest ih =>
    rcases entry with ⟨first, value⟩
    by_cases same : first = other
    · have skipped : (key == first) = false := beq_false_of_ne (same ▸ different)
      rw [List.filter_cons_of_neg (by simpa using same), List.lookup_cons, skipped, ih]
    · rw [List.filter_cons_of_pos (by simpa using same), List.lookup_cons, List.lookup_cons, ih]

/-- Looking up the keys of a list in order gives all values of a table whose keys are among them in
the same order. -/
theorem filterMap_lookup
    {table : List (κ × γ)} {keys : List κ}
    (ordered : (table.map (·.1)).Sublist keys)
    (distinct : keys.Nodup) :
    keys.filterMap (List.lookup · table) = table.map (·.2) := by
  induction keys generalizing table with
  | nil =>
    rw [List.map_eq_nil_iff.1 (List.sublist_nil.1 ordered)]
    rfl
  | cons first keys ih =>
    rw [List.nodup_cons] at distinct
    cases table with
    | nil => simp
    | cons entry table =>
      rcases entry with ⟨key, value⟩
      rw [List.map_cons] at ordered
      cases ordered with
      | cons _ others =>
        have absent : first ∉ ((key, value) :: table).map (·.1) :=
          fun member => distinct.1 (others.subset member)
        simp only [List.filterMap_cons, lookup_eq_none_of_notMem absent]
        exact ih others distinct.2
      | cons_cons _ others =>
        have skipped : ∀ other ∈ keys,
            List.lookup other ((key, value) :: table) = table.lookup other := by
          intro other member
          have apart : other ≠ key := by
            rintro rfl
            exact distinct.1 member
          rw [List.lookup_cons, beq_eq_false_iff_ne.2 apart]
        rw [List.map_cons, ← ih others distinct.2, List.filterMap_cons, List.lookup_cons_self,
          List.filterMap_congr skipped]

end Masthead
