import LuaAtlas.Failure
import LuaAtlas.Json.Printer
import LuaAtlas.Text.Integer

/-!
# Values taken for other values

Requests may give a value of one sort where another is wanted.  `toInteger` takes numbers, truth
values and texts for integers; `display` is how a value reads inside a message.
-/

namespace LuaAtlas.Json

/-- A quotient rounded to the nearest integer, a half going to the even one. -/
def nearest (n d : Nat) : Nat :=
  let q := n / d
  let twice := 2 * (n % d)
  if twice < d || (twice == d && q % 2 == 0) then q else q + 1

/-- The whole part of the number of 53 significant bits that is nearest to `n / d`. -/
def wholePart (n d : Nat) : Nat :=
  if n < d then nearest (n * Nat.pow 2 53) d / Nat.pow 2 53
  else
    let bits := Nat.log2 (n / d)
    if bits ≤ 52 then
      let scale := Nat.pow 2 (52 - bits)
      nearest (n * scale) d / scale
    else
      let scale := Nat.pow 2 (bits - 52)
      nearest n (d * scale) * scale

/-- **The integer that a value is taken for.**  Fractions lose what stands behind the point. -/
def toInteger : Json → Except Failure Int
  | int n => .ok n
  | bool value => .ok (if value then 1 else 0)
  | decimal mantissa places =>
    let whole : Int := wholePart mantissa.natAbs (Nat.pow 10 places)
    .ok (if mantissa < 0 then -whole else whole)
  | str s =>
    match Text.toInt? s.toList with
    | some n => .ok n
    | none => .error (.invalidInteger s.toList)
  | null => .error (.notNumeric "NoneType")
  | arr _ => .error (.notNumeric "list")
  | obj _ => .error (.notNumeric "dict")

/-- How a value reads inside a message. -/
def display : Json → Text
  | null => "None".toList
  | bool true => "True".toList
  | bool false => "False".toList
  | str s => s.toList
  | value => value.print.toList

end LuaAtlas.Json
