import CodeAudit.Counting.Ordered

/-!
# Counts by name

How often each name occurs in a list, in the order of the names.
-/

namespace CodeAudit
namespace Counting

/-- Counts one more occurrence of a name. -/
def countName (name : String) : List (String × Nat) → List (String × Nat) :=
  update name 0 (· + 1)

/-- The counts of the names in a list. -/
def countNames (names : List String) : List (String × Nat) :=
  names.foldl (fun counts name => countName name counts) []

end Counting
end CodeAudit
