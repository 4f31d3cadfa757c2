/-!
# The current year

Checking a header depends on the current year, which the caller supplies.  A current year has
four digits, so that it fills the place a template keeps for it.
-/

namespace Masthead

/-- The year a header is checked against. -/
structure CurrentYear where
  value : Nat
  least_le : 1000 ≤ value
  le_greatest : value ≤ 9999
  deriving DecidableEq

/-- A number that is no current year. -/
structure YearError where
  given : Int
  deriving DecidableEq

namespace YearError

def message (error : YearError) : String :=
  "Current year must be between 1000 and 9999, inclusive (got " ++ toString error.given ++ ")."

end YearError

namespace CurrentYear

/-- Accept a number of four digits as the current year. -/
def ofInt (given : Int) : Except YearError CurrentYear :=
  if h : 1000 ≤ given ∧ given ≤ 9999 then .ok ⟨given.toNat, by omega, by omega⟩
  else .error ⟨given⟩

instance : ToString CurrentYear := ⟨fun year => toString year.value⟩

end CurrentYear

end Masthead
