import LuaAtlas.Text.Digit

/-!
# Integers written as text

An integer is written with decimal digits of any script, a sign in front of them if wanted, single
underscores between digits, and blanks around the whole.  The information separators, blank
elsewhere, are not skipped here.  An integer with more than `digitLimit` digits is not read.
-/

namespace LuaAtlas.Text

/-- The blanks that may surround a written integer. -/
def surroundsInteger (c : Char) : Bool :=
  isBlank c && !(decide (0x1C ≤ c.toNat) && decide (c.toNat ≤ 0x1F))

/-- The value of digits with single underscores between them, after digits of the value `sofar`. -/
def digitsValue? (sofar : Nat) : Text → Option Nat
  | [] => some sofar
  | '_' :: c :: cs => (decimalValue? c).bind fun v => digitsValue? (10 * sofar + v) cs
  | c :: cs => (decimalValue? c).bind fun v => digitsValue? (10 * sofar + v) cs

/-- The value of a written natural number: a digit comes first. -/
def toNat? : Text → Option Nat
  | [] => none
  | c :: cs => (decimalValue? c).bind fun v => digitsValue? v cs

/-- Whether a minus sign stands in front of a number, and the number without its sign. -/
def withoutSign : Text → Bool × Text
  | '-' :: cs => (true, cs)
  | '+' :: cs => (false, cs)
  | cs => (false, cs)

/-- The greatest number of digits that an integer may be written with. -/
def digitLimit : Nat := 4300

/-- The digits of a written integer, with the underscores between them. -/
def digitRun (t : Text) : Text :=
  (withoutSign (t.dropWhile surroundsInteger)).2.takeWhile fun c => isDecimal c || c == '_'

/-- The number of digits of a written integer that has more than it may have.  What stands behind
the digits does not matter then. -/
def excessDigits? (t : Text) : Option Nat :=
  ((toNat? (digitRun t)).map fun _ => (digitRun t).countP isDecimal).filter (digitLimit < ·)

/-- **The value of a written integer.** -/
def toInt? (t : Text) : Option Int :=
  if (excessDigits? t).isSome then none
  else
    let (negative, number) :=
      withoutSign (dropTrailing surroundsInteger (t.dropWhile surroundsInteger))
    (toNat? number).map fun (n : Nat) => if negative then -(n : Int) else (n : Int)

end LuaAtlas.Text
