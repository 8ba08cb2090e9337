/-!
# Positions counted from either end

A position in a list is an integer: from `0` on it counts from the front, and a negative one counts
from the end, `-1` standing before the last element.  Positions outside the list mean its nearest
end.
-/

namespace LuaAtlas.Slice

variable {α : Type}

/-- The number of elements in front of a position. -/
def offset (position : Int) (size : Nat) : Nat :=
  if position < 0 then (size + position).toNat else min position.toNat size

/-- The elements in front of a position. -/
def before (position : Int) (xs : List α) : List α := xs.take (offset position xs.length)

/-- The elements from a position on. -/
def since (position : Int) (xs : List α) : List α := xs.drop (offset position xs.length)

/-- The elements in front of a limit, and all of them without one. -/
def limited (limit : Option Int) (xs : List α) : List α :=
  match limit with
  | none => xs
  | some position => before position xs

/-- A position and its complement cut a list in two. -/
theorem before_append_since (position : Int) (xs : List α) :
    before position xs ++ since position xs = xs := by
  simp [before, since]

end LuaAtlas.Slice
