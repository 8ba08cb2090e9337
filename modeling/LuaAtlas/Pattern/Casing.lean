import LuaAtlas.Pattern.Basic
import LuaAtlas.Text.Digit
import LuaAtlas.Text.Lowercase
import LuaAtlas.Text.WordChar

/-!
# Characters under switches

Which characters a set or a single code point of a pattern matches.  When upper and lower case are
the same, two characters match each other if their lower case forms do; a few lower case letters
have variants that match as well, such as the two forms of the small sigma.
-/

namespace LuaAtlas.Pattern

/-- The switches in force at a place of a pattern. -/
structure Flags where
  ignoreCase : Bool := false
  multiline : Bool := false
  dotAll : Bool := false
  ascii : Bool := false
  deriving Repr, DecidableEq

namespace Flags

/-- The switches after one was turned on. -/
def turnOn (f : Flags) : Flag → Flags
  | .ignoreCase => { f with ignoreCase := true }
  | .multiline => { f with multiline := true }
  | .dotAll => { f with dotAll := true }
  | .ascii => { f with ascii := true }
  | .unicode => { f with ascii := false }
  | _ => f

/-- The switches after one was turned off. -/
def turnOff (f : Flags) : Flag → Flags
  | .ignoreCase => { f with ignoreCase := false }
  | .multiline => { f with multiline := false }
  | .dotAll => { f with dotAll := false }
  | _ => f

/-- The switches after some were turned on and then some turned off. -/
def change (f : Flags) (on off : List Flag) : Flags := off.foldl turnOff (on.foldl turnOn f)

end Flags

/-! ### Case -/

/-- The lower case letters that are variants of each other. -/
def letterVariants : List (List Nat) :=
  [[0x69, 0x131], [0x73, 0x17F], [0xB5, 0x3BC], [0x345, 0x3B9, 0x1FBE], [0x390, 0x1FD3],
   [0x3B0, 0x1FE3], [0x3B2, 0x3D0], [0x3B5, 0x3F5], [0x3B8, 0x3D1], [0x3BA, 0x3F0],
   [0x3C0, 0x3D6], [0x3C1, 0x3F1], [0x3C2, 0x3C3], [0x3C6, 0x3D5], [0x432, 0x1C80],
   [0x434, 0x1C81], [0x43E, 0x1C82], [0x441, 0x1C83], [0x442, 0x1C84, 0x1C85], [0x44A, 0x1C86],
   [0x463, 0x1C87], [0x1C88, 0xA64B], [0x1E61, 0x1E9B], [0xFB05, 0xFB06]]

/-- The lower case form of a code point among the first 128. -/
def lowerAsciiCode (n : Nat) : Nat := if 65 ≤ n && n ≤ 90 then n + 32 else n

/-- The lower case form of a code point in the alphabet in force. -/
def foldCode (f : Flags) (n : Nat) : Nat := if f.ascii then lowerAsciiCode n else Text.lowerCode n

/-- **The code points that match a code point** when upper and lower case are the same. -/
def caseVariants (f : Flags) (n : Nat) : List Nat :=
  let low := foldCode f n
  if f.ascii then
    if 97 ≤ low && low ≤ 122 then [low, low - 32] else [low]
  else
    let lows := (letterVariants.find? (·.contains low)).getD [low]
    lows ++ lows.flatMap Text.raisedCodes

/-! ### Classes and sets -/

/-- The blank characters below code point 128, the information separators apart. -/
def isAsciiBlank (c : Char) : Bool := c == ' ' || (9 ≤ c.toNat && c.toNat ≤ 13)

/-- Whether a character stands in a word. -/
def isWord (f : Flags) (c : Char) : Bool :=
  if f.ascii then c.isAlphanum || c == '_' else Text.isWordChar c

/-- Whether a character is in a class. -/
def Category.holds (f : Flags) (c : Char) : Category → Bool
  | digit => if f.ascii then c.isDigit else Text.isDecimal c
  | blank => if f.ascii then isAsciiBlank c else Text.isBlank c
  | word => isWord f c

/-- Whether an item of a set matches a code point as it stands. -/
def SetItem.holds (n : Nat) : SetItem → Bool
  | code m => m == n
  | range low high => low ≤ n && n ≤ high
  | category _ _ => false

/-- Whether a class in a set matches a character. -/
def SetItem.holdsClass (f : Flags) (c : Char) : SetItem → Bool
  | category k negated => k.holds f c != negated
  | _ => false

/-- Whether an item of a set matches a character. -/
def SetItem.admits (f : Flags) (c : Char) (item : SetItem) : Bool :=
  let codes := if f.ignoreCase then caseVariants f c.toNat else [c.toNat]
  item.holdsClass f c || codes.any item.holds

/-- Whether a set matches a character. -/
def setAdmits (f : Flags) (negated : Bool) (items : List SetItem) (c : Char) : Bool :=
  items.any (·.admits f c) != negated

/-- Whether two characters are the same when a group is matched again. -/
def sameAgain (f : Flags) (a b : Char) : Bool :=
  if f.ignoreCase then foldCode f a.toNat == foldCode f b.toNat else a == b

end LuaAtlas.Pattern
