/-!
# Values by key

A list holds values by key, in the order of the keys and every key once.  Such a list is filled by
changing the values of one key after another.
-/

namespace CodeAudit
namespace Counting

variable {κ α : Type} [DecidableEq κ] [LT κ] [DecidableLT κ]

/-- Changes the value of a key; a key that is new had the value `start` before. -/
def update (key : κ) (start : α) (change : α → α) : List (κ × α) → List (κ × α)
  | [] => [(key, change start)]
  | (other, value) :: rest =>
    if key = other then (other, change value) :: rest
    else if key < other then (key, change start) :: (other, value) :: rest
    else (other, value) :: update key start change rest

end Counting
end CodeAudit
