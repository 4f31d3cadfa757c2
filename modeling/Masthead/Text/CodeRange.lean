/-!
# Ranges of code points

Character properties are kept as short tables.  A `CodeRange` is an interval of code points; a
`CodeRun` maps every `step`-th code point of an interval by one fixed shift, which is how case
mappings come in blocks.
-/

namespace Masthead

/-- The code points from `first` to `last`, both included. -/
structure CodeRange where
  first : Nat
  last : Nat

namespace CodeRange

def contains (range : CodeRange) (code : Nat) : Bool :=
  range.first ≤ code && code ≤ range.last

/-- Whether a character lies in one of the listed ranges. -/
def listed (ranges : List CodeRange) (c : Char) : Bool :=
  ranges.any (·.contains c.toNat)

end CodeRange

/-- Every `step`-th code point from `first` to `last`; `first` goes to `image`, the others by the
same shift. -/
structure CodeRun where
  first : Nat
  last : Nat
  step : Nat
  image : Nat

namespace CodeRun

/-- Whether a run maps a code point. -/
def covers (run : CodeRun) (code : Nat) : Bool :=
  run.first ≤ code && code ≤ run.last && (code - run.first) % run.step == 0

/-- The image of a character under the first run that covers it. -/
def image? (runs : List CodeRun) (c : Char) : Option Char :=
  (runs.find? (·.covers c.toNat)).map fun run => Char.ofNat (run.image + (c.toNat - run.first))

end CodeRun

end Masthead
