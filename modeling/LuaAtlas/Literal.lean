import LuaAtlas.Text.Digit

/-!
# Literals

Numbers, quoted texts, table constructors and truth values as they are written in types and as the
values of enumerations.
-/

namespace LuaAtlas.Literal

/-- The text without a minus sign at its front. -/
def unsigned : Text → Text
  | '-' :: cs => cs
  | cs => cs

/-- One or more decimal digits. -/
def isDigits (t : Text) : Bool := !t.isEmpty && t.all Text.isDecimal

/-- `0x` or `0X` and one or more hexadecimal digits. -/
def isHex : Text → Bool
  | '0' :: x :: cs => (x == 'x' || x == 'X') && !cs.isEmpty && cs.all Text.isHexDigit
  | _ => false

/-- An exponent of ten, or nothing. -/
def isExponent : Text → Bool
  | [] => true
  | e :: cs =>
    (e == 'e' || e == 'E') &&
      match cs with
      | '+' :: ds => isDigits ds
      | '-' :: ds => isDigits ds
      | ds => isDigits ds

/-- Whether a text is an integer, decimal or hexadecimal. -/
def isInteger (t : Text) : Bool := isHex (unsigned t) || isDigits (unsigned t)

/-- Whether a text is a number that a type may be: digits come first, and a point, further digits
and an exponent may follow. -/
def isNumber (t : Text) : Bool :=
  let t := unsigned t
  isHex t ||
    (!(t.takeWhile Text.isDecimal).isEmpty &&
      match t.dropWhile Text.isDecimal with
      | '.' :: cs => isExponent (cs.dropWhile Text.isDecimal)
      | cs => isExponent cs)

/-- Whether a text is a number with a point and digits behind it. -/
def isFraction (t : Text) : Bool :=
  match (unsigned t).dropWhile Text.isDecimal with
  | '.' :: cs =>
    !(cs.takeWhile Text.isDecimal).isEmpty && isExponent (cs.dropWhile Text.isDecimal)
  | _ => false

/-- Whether a text of at least two characters starts and ends with the same one of the marks. -/
def isBetween (marks : List Char) : Text → Bool
  | c :: d :: cs => marks.contains c && (d :: cs).getLast? == some c
  | _ => false

/-- The two truth values. -/
def isTruth (t : Text) : Bool := t == "true".toList || t == "false".toList

/-- Whether a text stands between braces. -/
def isTable (t : Text) : Bool := t.head? == some '{' && t.getLast? == some '}'

/-- **Whether a type is a literal**: a quoted text, a table constructor, a truth value or a
number. -/
def isLiteral (t : Text) : Bool :=
  isBetween ['"', '\'', '\x60'] t || isTable t || isTruth t || isNumber t

/-- The type of an enumeration's value. -/
def typeOfValue (value : Text) : Text :=
  if isInteger value then "integer".toList
  else if isFraction value then "number".toList
  else if isBetween ['"', '\''] value then "string".toList
  else if isTruth value then "boolean".toList
  else "any".toList

end LuaAtlas.Literal
