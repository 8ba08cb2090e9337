import LuaAtlas.Pattern.Source
import LuaAtlas.Text.Digit

/-!
# Escapes and sets in patterns

A backslash gives a letter or digit a meaning of its own: a class of characters, an anchor, a
character by its number or a group by its number.  Between square brackets stands a set of
characters, in which some of these meanings are different.
-/

namespace LuaAtlas.Pattern

/-- The class that an escape stands for, and whether it is negated. -/
def categoryOf? : Char → Option SetItem
  | 'd' => some (.category .digit false)
  | 'D' => some (.category .digit true)
  | 's' => some (.category .blank false)
  | 'S' => some (.category .blank true)
  | 'w' => some (.category .word false)
  | 'W' => some (.category .word true)
  | _ => none

/-- The anchor that an escape stands for. -/
def anchorOf? : Char → Option Anchor
  | 'A' => some .textStart
  | 'Z' => some .textEnd
  | 'b' => some .wordEdge
  | 'B' => some .notWordEdge
  | _ => none

/-- The control character that an escape stands for. -/
def controlOf? : Char → Option Nat
  | 'a' => some 7
  | 'b' => some 8
  | 't' => some 9
  | 'n' => some 10
  | 'v' => some 11
  | 'f' => some 12
  | 'r' => some 13
  | '\\' => some 92
  | _ => none

/-- The octal digits. -/
def isOctal (c : Char) : Bool := '0' ≤ c && c ≤ '7'

/-- The value of digits to a base. -/
def valueOf (base : Nat) (digits : Text) : Nat :=
  digits.foldl (fun n c => base * n + Text.hexValue c) 0

/-- A character number of exactly `count` hexadecimal digits. -/
def readHex (letter : Char) (count : Nat) : Reader Nat := do
  let digits ← Reader.takeWhile Text.isHexDigit count
  let escape := '\\' :: letter :: digits
  if digits.length ≠ count then Reader.failBack escape.length (.incompleteEscape escape)
  else if valueOf 16 digits > 0x10FFFF then Reader.failBack escape.length (.badEscape escape)
  else return valueOf 16 digits

/-- A character by its name.  No character is known by a name, so this is always a fault. -/
def readNamed : Reader Nat := do
  if ← Reader.accept '{' then
    let name ← Reader.takeUntil '}' "character name"
    Reader.failBack (name.length + 4) (.undefinedCharacter name)
  else Reader.failBack 0 (.missing "\x7b")

/-- An octal number that has to fit in eight bits. -/
def octalCode (digits : Text) : Reader Nat := do
  let escape := '\\' :: digits
  if valueOf 8 digits > 0o377 then Reader.failBack escape.length (.octalTooLarge escape)
  else return valueOf 8 digits

/-- The escapes with a character number behind a letter. -/
def readNumbered? (letter : Char) : Reader (Option Nat) := do
  match letter with
  | 'x' => return some (← readHex 'x' 2)
  | 'u' => return some (← readHex 'u' 4)
  | 'U' => return some (← readHex 'U' 8)
  | 'N' => return some (← readNamed)
  | _ => return none

/-- A character that stands for itself behind a backslash: anything but a letter or digit. -/
def readPlain (c : Char) : Reader Nat := do
  if c.isAlphanum then Reader.failBack 2 (.badEscape ['\\', c]) else return c.toNat

/-! ### Sets -/

/-- **An escape inside a set**, behind its backslash and the character `c`. -/
def readSetEscape (c : Char) : Reader SetItem := do
  match controlOf? c with
  | some n => return .code n
  | none =>
    match categoryOf? c with
    | some item => return item
    | none =>
      match ← readNumbered? c with
      | some n => return .code n
      | none =>
        if isOctal c then
          let more ← Reader.takeWhile isOctal 2
          return .code (← octalCode (c :: more))
        else return .code (← readPlain c)

/-- The item that a token of a set begins. -/
def readSetItem : Text → Reader SetItem
  | ['\\', c] => readSetEscape c
  | c :: _ => return .code c.toNat
  | [] => return .code 0

/-- A range of characters, written with two tokens. -/
def rangeOf (first last : Text) : SetItem → SetItem → Reader SetItem
  | .code low, .code high =>
    if high < low then Reader.failBack (first.length + 1 + last.length) (.badRange first last)
    else return .range low high
  | _, _ => Reader.failBack (first.length + 1 + last.length) (.badRange first last)

/-- The items of a set that begins at `start`, in at most `n` steps.  A closing bracket right at the
beginning stands for itself, and so does a dash right at the end. -/
def readSetItems (start : Nat) (items : List SetItem) : Nat → Reader (List SetItem)
  | 0 => return items
  | n + 1 => do
    let first ← Reader.take
    if first = [] then Reader.failAt start .unterminatedSet
    else if first = [']'] && !items.isEmpty then return items
    else
      let item ← readSetItem first
      if ← Reader.accept '-' then
        let last ← Reader.take
        if last = [] then Reader.failAt start .unterminatedSet
        else if last = [']'] then return items ++ [item, .code '-'.toNat]
        else
          let range ← rangeOf first last item (← readSetItem last)
          readSetItems start (items ++ [range]) n
      else readSetItems start (items ++ [item]) n

/-- **A set of characters** behind its opening bracket. -/
def readSet : Reader Pattern := do
  let start := (← Reader.position) - 1
  let negated ← Reader.accept '^'
  let items ← readSetItems start [] ((← get).rest.length + 1)
  return .set negated items

/-! ### Escapes outside sets -/

/-- A group may be matched again once it is closed, and inside a look behind only if it stands in
front of that. -/
def checkLook (number : Nat) : Reader Unit := do
  let s ← get
  match s.lookGroups with
  | none => return ()
  | some groups =>
    if (s.closed.lookup number).isNone then Reader.failBack 0 .openGroup
    else if groups < number then Reader.failBack 0 .groupOfSameLook
    else return ()

/-- A reference to a closed group; `offset` leads back to where the reference begins. -/
def readAgain (number offset : Nat) : Reader Pattern := do
  match (← get).closed.lookup number with
  | none => Reader.failBack offset .openGroup
  | some width =>
    checkLook number
    return .again number width

/-- A reference to a group by its number. -/
def readGroupNumber (digits : Text) : Reader Pattern := do
  let number := valueOf 10 digits
  if number ≤ (← get).groups then readAgain number (digits.length + 1)
  else Reader.failBack digits.length (.invalidGroup number)

/-- An escape with a digit other than zero: three octal digits are a character number, one or two
digits are the number of a group. -/
def readDigits (c : Char) : Reader Pattern := do
  match ← Reader.takeWhile Char.isDigit 1 with
  | d :: _ =>
    if isOctal c && isOctal d then
      match ← Reader.takeWhile isOctal 1 with
      | e :: _ => return .code (← octalCode [c, d, e])
      | [] => readGroupNumber [c, d]
    else readGroupNumber [c, d]
  | [] => readGroupNumber [c]

/-- **An escape outside a set**, behind its backslash and the character `c`. -/
def readEscape (c : Char) : Reader Pattern := do
  match anchorOf? c with
  | some a => return .anchor a
  | none =>
    match categoryOf? c with
    | some item => return .set false [item]
    | none =>
      match controlOf? c with
      | some n => return .code n
      | none =>
        match ← readNumbered? c with
        | some n => return .code n
        | none =>
          if c = '0' then
            let more ← Reader.takeWhile isOctal 2
            return .code (valueOf 8 more)
          else if c.isDigit then readDigits c
          else return .code (← readPlain c)

end LuaAtlas.Pattern
