import Mathlib.Data.List.Induction
import Mathlib.Data.List.Nodup
import Masthead.Proofs.Table
import Masthead.Registry

/-!
# The history of a registry

A registry stands for the whole history of what was registered in it.  Names with one folded form
make up a class.  Of every class the registry holds one definition, the last that was registered, at
the place where the class was registered first; so a spelling that is registered anew replaces the
older ones without moving.

What one registration does to the keys and to looking them up is said first; that the registry
records its history then follows by adding one registration at a time.
-/

namespace Masthead

/-- The class of a definition: the folded form of its name. -/
def Definition.key (definition : Definition) : Text := definition.name.fold

namespace Registry

/-- The registry after some registrations, in order. -/
def registerAll (history : List Definition) : Registry := history.foldl register empty

/-- The last definition of a class. -/
def last? (history : List Definition) (key : Text) : Option Definition :=
  history.findRev? (·.key == key)

/-- The classes of some definitions, each at the place of its first definition. -/
def classes (history : List Definition) : List Text := (history.map (·.key)).eraseDups

/-! ## One registration -/

theorem keys_put (key : Text) (definition : Definition) (entries : List (Text × Definition)) :
    (put key definition entries).map (·.1) =
      if key ∈ entries.map (·.1) then entries.map (·.1) else entries.map (·.1) ++ [key] := by
  induction entries with
  | nil => rfl
  | cons entry rest ih =>
    rw [put]
    by_cases here : entry.1 = key
    · rw [if_pos (beq_iff_eq.2 here)]
      simp [here]
    · have elsewhere : key ≠ entry.1 := Ne.symm here
      rw [if_neg (by simpa using here), List.map_cons, ih, List.map_cons]
      simp only [List.mem_cons, elsewhere, false_or]
      split <;> rfl

/-- Nothing is registered but the definition. -/
theorem mem_put
    {key : Text} {definition : Definition} {entries : List (Text × Definition)}
    {entry : Text × Definition}
    (member : entry ∈ put key definition entries) :
    entry = (key, definition) ∨ entry ∈ entries := by
  induction entries with
  | nil => exact Or.inl (List.mem_singleton.1 member)
  | cons first rest ih =>
    rw [put] at member
    split at member
    · exact (List.mem_cons.1 member).imp_right (List.mem_cons_of_mem first)
    · rcases List.mem_cons.1 member with rfl | further
      · exact Or.inr List.mem_cons_self
      · exact (ih further).imp_right (List.mem_cons_of_mem first)

theorem lookup_put
    (key other : Text) (definition : Definition) (entries : List (Text × Definition)) :
    (put key definition entries).lookup other =
      if other = key then some definition else entries.lookup other :=
  lookup_of_replaced (put key definition) rfl (fun _ _ => rfl) entries other

theorem last?_concat (history : List Definition) (definition : Definition) (key : Text) :
    last? (history ++ [definition]) key =
      if key = definition.key then some definition else last? history key := by
  rw [last?, last?, List.findRev?_eq_find?_reverse, List.findRev?_eq_find?_reverse,
    List.reverse_append, List.reverse_singleton, List.singleton_append, List.find?_cons]
  by_cases same : key = definition.key
  · simp [same]
  · have other : (definition.key == key) = false := beq_false_of_ne (Ne.symm same)
    rw [other, if_neg same]

theorem classes_concat (history : List Definition) (definition : Definition) :
    classes (history ++ [definition]) =
      if definition.key ∈ classes history then classes history
      else classes history ++ [definition.key] := by
  have added : ([definition.key].removeAll (history.map (·.key))).eraseDups =
      if definition.key ∈ history.map (·.key) then [] else [definition.key] := by
    by_cases known : definition.key ∈ history.map (·.key)
    · simp only [List.removeAll, List.filter_cons, List.elem_eq_mem, known]
      rfl
    · simp only [List.removeAll, List.filter_cons, List.elem_eq_mem, known]
      rfl
  rw [classes, List.map_append, List.map_singleton, List.eraseDups_append, ← classes, added]
  simp only [classes, List.mem_eraseDups]
  split
  · exact List.append_nil _
  · rfl

/-! ## The whole history -/

/-- A registry holds one entry for every class of a history, in the order of the classes, with the
last definition of the class. -/
structure Records (registry : Registry) (history : List Definition) : Prop where
  keys : registry.entries.map (·.1) = classes history
  distinct : (classes history).Nodup
  keyed : ∀ entry ∈ registry.entries, entry.2.key = entry.1
  lookup : ∀ key, registry.entries.lookup key = last? history key

theorem records_empty : empty.Records [] := ⟨rfl, .nil, by simp [empty], fun _ => rfl⟩

/-- A registration takes its place in the history. -/
theorem Records.register
    {registry : Registry} {history : List Definition}
    (records : registry.Records history)
    (definition : Definition) :
    (registry.register definition).Records (history ++ [definition]) := by
  constructor
  · rw [Registry.register, keys_put, records.keys, classes_concat]
    rfl
  · rw [classes_concat]
    split
    · exact records.distinct
    · rename_i unknown
      rw [List.nodup_append]
      refine ⟨records.distinct, List.nodup_singleton _, ?_⟩
      rintro key member _ (_ | ⟨_, ⟨⟩⟩) rfl
      exact unknown member
  · intro entry member
    rcases mem_put member with rfl | old
    · rfl
    · exact records.keyed entry old
  · intro key
    rw [Registry.register, lookup_put, records.lookup, last?_concat]
    rfl

theorem records_registerAll (history : List Definition) :
    (registerAll history).Records history := by
  induction history using List.reverseRecOn with
  | nil => exact records_empty
  | append_singleton history definition ih =>
    rw [registerAll, List.foldl_append]
    exact ih.register definition

theorem Records.definitions_eq
    {registry : Registry} {history : List Definition}
    (records : registry.Records history) :
    registry.definitions = (classes history).filterMap (last? history) := by
  have ordered : (registry.entries.map (·.1)).Sublist (classes history) := by
    rw [records.keys]
  rw [definitions, ← filterMap_lookup ordered records.distinct]
  exact List.filterMap_congr fun key _ => records.lookup key

/-- The definitions of a registry are of its classes. -/
theorem Records.keys_definitions
    {registry : Registry} {history : List Definition}
    (records : registry.Records history) :
    registry.definitions.map (·.key) = classes history := by
  rw [← records.keys, definitions, List.map_map]
  exact List.map_congr_left records.keyed

/-- Whatever was registered, looking up a name gives the definition that was registered last under a
name of its class, if there is one.  The registry lists one definition for every class, the last
one, in the order in which the classes were registered first, and its names are the spellings of
these definitions. -/
theorem registerAll_keeps_last (history : List Definition) :
    (∀ name, (registerAll history).get? name = last? history name.fold) ∧
      (registerAll history).definitions = (classes history).filterMap (last? history) ∧
      (registerAll history).definitions.map (·.key) = classes history ∧
      (classes history).Nodup ∧
      (registerAll history).names =
        ((classes history).filterMap (last? history)).map (·.name) := by
  have records := records_registerAll history
  have listed := records.definitions_eq
  refine ⟨fun name => records.lookup name.fold, listed, ?_, records.distinct, ?_⟩
  · exact records.keys_definitions
  · rw [names, listed]

/-- A spelling of another length takes the place of the first one. -/
example :
    (registerAll [⟨"Straße".toList, .year, "", ""⟩, yearRangeDefinition,
      ⟨"STRASSE".toList, .yearRange, "", ""⟩]).names =
        ["STRASSE".toList, "YearRange".toList] := by
  decide +kernel

end Registry

end Masthead
