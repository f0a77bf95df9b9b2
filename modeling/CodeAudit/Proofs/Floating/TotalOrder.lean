import CodeAudit.Proofs.Floating.Monotone
import Mathlib.Data.Prod.Lex

/-!
# The total order of numbers

Every number has a place in a lexicographic order, by its kind, its value and its sign, and no two
numbers have the same place.  So numbers are ordered also where a comparison of them has no answer.  Of
two finite numbers the one that stands later is not less than the other one.

**Results.**
* `before_iff_rank_lt`, `rank_injective`: the order of the program is the order of the places.
* `value_le_of_rank_le`: finite numbers are ordered by their values.
* `atLeast_of_rank_le`: what a finite number reaches, a later one reaches.
-/

namespace CodeAudit
namespace Floating

variable {x y z : Floating} {a b : Rat}

/-- The place of a number in the total order. -/
def rank (x : Floating) : Int ×ₗ Rat ×ₗ Nat := toLex (x.orderKey.1, toLex x.orderKey.2)

theorem before_iff_rank_lt
    (x y : Floating) :
    before x y = true ↔ x.rank < y.rank := by
  simp [before, rank, Prod.Lex.toLex_lt_toLex]

theorem orderKey_injective :
    Function.Injective orderKey := by
  intro x y hkey
  rcases x with _ | (_ | _) | _ | a <;> rcases y with _ | (_ | _) | _ | b <;>
    simp_all [orderKey]

theorem rank_injective :
    Function.Injective rank := by
  intro x y hsame
  rw [rank, rank, toLex_inj, Prod.mk.injEq, toLex_inj] at hsame
  exact orderKey_injective (Prod.ext hsame.1 hsame.2)

/-- Finite numbers stand between the infinities, in the order of their values. -/
theorem exists_orderKey_of_value
    (hx : x.value? = some a) :
    ∃ sign, x.orderKey = (0, a, sign) := by
  cases x with
  | nan =>
      cases hx
  | infinite negative =>
      cases hx
  | negativeZero =>
      cases hx
      exact ⟨0, rfl⟩
  | num value =>
      cases hx
      exact ⟨1, rfl⟩

theorem value_le_of_rank_le
    (hx : x.value? = some a)
    (hy : y.value? = some b)
    (hrank : x.rank ≤ y.rank) :
    a ≤ b := by
  obtain ⟨signX, hkeyX⟩ := exists_orderKey_of_value hx
  obtain ⟨signY, hkeyY⟩ := exists_orderKey_of_value hy
  rw [rank, rank, hkeyX, hkeyY, Prod.Lex.toLex_le_toLex, Prod.Lex.toLex_le_toLex] at hrank
  rcases hrank with hkind | ⟨-, hvalue | ⟨hvalue, -⟩⟩
  · exact absurd hkind (lt_irrefl _)
  · exact hvalue.le
  · exact hvalue.le

/-- What a finite number is at least, a finite number that stands later is at least. -/
theorem atLeast_of_rank_le
    (hx : x.value? = some a)
    (hy : y.value? = some b)
    (hrank : x.rank ≤ y.rank)
    (hreached : x.atLeast z = true) :
    y.atLeast z = true := by
  cases hz : z.value? with
  | some c =>
      rw [atLeast_iff hx hz] at hreached
      rw [atLeast_iff hy hz]
      exact hreached.trans (value_le_of_rank_le hx hy hrank)
  | none =>
      -- Nothing is at least not a number, and a finite number lies above one infinity only.
      cases z <;> cases x <;> cases y <;> simp_all [value?, atLeast, less]

end Floating
end CodeAudit
