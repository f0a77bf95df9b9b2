/-!
# Totals

The sum of a list of numbers.
-/

namespace CodeAudit
namespace Counting

/-- The sum of counts. -/
def total (counts : List Nat) : Nat := counts.foldr (fun count rest => count + rest) 0

end Counting
end CodeAudit
