import Masthead.Text.Letter
import Masthead.Segment.Basic

/-!
# The registry of special segments

A registry says which segment a name between braces stands for.  Names are compared by their
folded form.  Registering a name again replaces its definition and keeps its place in the order.
-/

namespace Masthead

/-- A special segment with the spelling it was registered under. -/
structure Definition where
  name : Text
  segment : Segment
  description : String
  sample : String
  deriving DecidableEq

/-- Definitions in order of first registration, each with the folded form of its name. -/
structure Registry where
  entries : List (Text × Definition)

namespace Registry

def empty : Registry := ⟨[]⟩

/-- Replace the definition of a key in place, or add it at the end. -/
def put (key : Text) (definition : Definition) :
    List (Text × Definition) → List (Text × Definition)
  | [] => [(key, definition)]
  | entry :: rest =>
      if entry.1 == key then (key, definition) :: rest
      else entry :: put key definition rest

def register (registry : Registry) (definition : Definition) : Registry :=
  ⟨put definition.name.fold definition registry.entries⟩

def get? (registry : Registry) (name : Text) : Option Definition :=
  registry.entries.lookup name.fold

def definitions (registry : Registry) : List Definition := registry.entries.map (·.2)

def names (registry : Registry) : List Text := registry.definitions.map (·.name)

def yearDefinition : Definition where
  name := ['Y', 'e', 'a', 'r']
  segment := .year
  description := "Current year"
  sample := "2024"

def yearRangeDefinition : Definition where
  name := ['Y', 'e', 'a', 'r', 'R', 'a', 'n', 'g', 'e']
  segment := .yearRange
  description := "Start year, followed by the current year once they differ"
  sample := "2019–2024"

/-- The registry that template sources are read with. -/
def standard : Registry := (empty.register yearDefinition).register yearRangeDefinition

end Registry

end Masthead
