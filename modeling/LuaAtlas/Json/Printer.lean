import LuaAtlas.Json.Basic
import LuaAtlas.Text.Quoted

/-!
# JSON as text

Values are printed over several lines: two spaces for each level, one item on each line, empty
arrays and objects in one piece.  Every character outside the printable ones below code point 127 is
escaped, above code point 65535 as two code units.
-/

namespace LuaAtlas.Json

/-- A code unit as an escape. -/
def unitEscape (n : Nat) : Text := '\\' :: 'u' :: Text.hex 4 n

/-- How a character stands in a string. -/
def escapeChar (c : Char) : Text :=
  if c == '"' then ['\\', '"']
  else if c == '\\' then ['\\', '\\']
  else if c == '\n' then ['\\', 'n']
  else if c == '\r' then ['\\', 'r']
  else if c == '\t' then ['\\', 't']
  else if c.toNat = 0xC then ['\\', 'f']
  else if c.toNat = 0x8 then ['\\', 'b']
  else if 32 ≤ c.toNat && c.toNat < 127 then [c]
  else if c.toNat < 0x10000 then unitEscape c.toNat
  else
    let n := c.toNat - 0x10000
    unitEscape (0xD800 + n / 0x400) ++ unitEscape (0xDC00 + n % 0x400)

/-- A string in quotes. -/
def quote (s : String) : String := String.ofList ('"' :: s.toList.flatMap escapeChar ++ ['"'])

/-- A decimal fraction with a point. -/
def decimalText (mantissa : Int) (places : Nat) : String :=
  let digits := Text.ofNat mantissa.natAbs
  let padded := List.replicate (places + 1 - digits.length) '0' ++ digits
  let whole := padded.take (padded.length - places)
  let fraction := padded.drop (padded.length - places)
  let sign := if mantissa < 0 then ['-'] else []
  String.ofList (sign ++ whole ++ '.' :: if fraction.isEmpty then ['0'] else fraction)

/-- The start of a line at a level. -/
def newline (level : Nat) : String := String.ofList ('\n' :: List.replicate (2 * level) ' ')

/-- Items between brackets, one on each line. -/
def block (level : Nat) (opening closing : String) (items : List String) : String :=
  match items with
  | [] => opening ++ closing
  | _ =>
    let separator := "," ++ newline (level + 1)
    opening ++ newline (level + 1) ++ separator.intercalate items ++ newline level ++ closing

mutual

/-- A value at a level. -/
def printAt (level : Nat) : Json → String
  | null => "null"
  | bool true => "true"
  | bool false => "false"
  | int value => String.ofList (Text.ofInt value)
  | decimal mantissa places => decimalText mantissa places
  | str value => quote value
  | arr items => block level "[" "]" (printItems (level + 1) items)
  | obj fields => block level "\x7b" "\x7d" (printFields (level + 1) fields)

/-- The items of an array at a level. -/
def printItems (level : Nat) : List Json → List String
  | [] => []
  | item :: items => printAt level item :: printItems level items

/-- The fields of an object at a level. -/
def printFields (level : Nat) : List (String × Json) → List String
  | [] => []
  | (key, value) :: fields =>
    (quote key ++ ": " ++ printAt level value) :: printFields level fields

end

/-- **A value as text.** -/
def print (value : Json) : String := printAt 0 value

end LuaAtlas.Json
