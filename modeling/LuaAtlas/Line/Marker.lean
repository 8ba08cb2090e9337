import LuaAtlas.Name

/-!
# Marker lines

Five kinds of lines declare something: `---@class`, `---@enum` and `---@alias` comments, and the
`function` lines of methods and of global functions.  Each kind has a reader that gives what the
line declares together with the rest of the line behind the marker.  `classify` tries the readers
in the order of `Marker.readers`.
-/

namespace LuaAtlas

/-- What a marker line declares. -/
inductive Marker where
  /-- A class, with the name behind its colon if it has one. -/
  | classDef (name : Text) (parent : Option Text)
  /-- An enumeration. -/
  | enumDef (name : Text)
  /-- An alias, with the type on its line if there is one. -/
  | aliasDef (name : Text) (target : Option Text)
  /-- A function stored in a class: `separator` is the colon or dot in front of its name. -/
  | method (owner : Text) (separator : Char) (name arguments : Text)
  /-- A global function. -/
  | function (name arguments : Text)
  deriving Repr, DecidableEq

namespace Marker

/-- A parenthesised attribute of lower case letters, and the blanks behind it, are skipped. -/
def skipAttribute (t : Text) : Text :=
  match t with
  | '(' :: cs =>
    match cs.takeWhile Char.isLower, cs.dropWhile Char.isLower with
    | _ :: _, ')' :: rest => Text.trimLeft rest
    | _, _ => t
  | _ => t

/-- A colon and the dotted name behind it, with blanks before and after the colon if wanted. -/
def readParent? (t : Text) : Option (Text × Text) :=
  match Text.trimLeft t with
  | ':' :: cs => Name.readDotted? (Text.trimLeft cs)
  | _ => none

/-- `---@class`, an attribute if wanted, the class and its parent if wanted. -/
def readClass? (line : Text) : Option (Marker × Text) := do
  let t ← Text.after? "---@class".toList line
  let t ← Text.skipBlanks? t
  let (name, rest) ← Name.readDotted? (skipAttribute t)
  match readParent? rest with
  | some (parent, rest) => some (classDef name (some parent), rest)
  | none => some (classDef name none, rest)

/-- `---@enum`, an attribute if wanted, and the enumeration. -/
def readEnum? (line : Text) : Option (Marker × Text) := do
  let t ← Text.after? "---@enum".toList line
  let t ← Text.skipBlanks? t
  let (name, rest) ← Name.readDotted? (skipAttribute t)
  some (enumDef name, rest)

/-- `---@alias`, the alias and its target if wanted, which reaches to the end of the line and holds
no line feed. -/
def readAlias? (line : Text) : Option (Marker × Text) := do
  let t ← Text.after? "---@alias".toList line
  let t ← Text.skipBlanks? t
  let (name, rest) ← Name.readDotted? t
  if Text.trimLeft rest = [] then some (aliasDef name none, [])
  else do
    let target := Text.trimRight (← Text.skipBlanks? rest)
    if target.contains '\n' then none else some (aliasDef name (some target), [])

/-- The word `function` at the front of a line, up to the name behind it. -/
def skipFunction? (line : Text) : Option Text := do
  let t ← Text.after? "function".toList (Text.trimLeft line)
  Text.skipBlanks? t

/-- A parenthesised argument list: it ends at the first closing parenthesis. -/
def readArguments? (t : Text) : Option (Text × Text) :=
  match Text.trimLeft t with
  | '(' :: cs =>
    match cs.dropWhile (· != ')') with
    | _ :: rest => some (cs.takeWhile (· != ')'), rest)
    | [] => none
  | _ => none

/-- `function`, the owner, a colon or dot, the name and the arguments.  Without a colon the name
stands behind the last dot. -/
def readMethod? (line : Text) : Option (Marker × Text) := do
  let t ← skipFunction? line
  let (dotted, rest) ← Name.readDotted? t
  match rest with
  | ':' :: cs => do
    let (name, rest) ← Name.read? cs
    let (arguments, rest) ← readArguments? rest
    some (method dotted ':' name arguments, rest)
  | _ => do
    let (owner, name) ← Name.splitLastDot? dotted
    let (arguments, rest) ← readArguments? rest
    some (method owner '.' name arguments, rest)

/-- `function`, a name without dots and the arguments. -/
def readFunction? (line : Text) : Option (Marker × Text) := do
  let t ← skipFunction? line
  let (name, rest) ← Name.read? t
  let (arguments, rest) ← readArguments? rest
  some (function name arguments, rest)

/-- The readers of the five kinds of marker lines, in the order in which they are tried. -/
def readers : List (Text → Option (Marker × Text)) :=
  [readClass?, readEnum?, readAlias?, readMethod?, readFunction?]

end Marker

/-- **The marker of a line** and the rest of the line behind it, if the line is a marker line. -/
def classify (line : Text) : Option (Marker × Text) :=
  Marker.readers.findSome? fun read => read line

/-- The marker of a line alone. -/
def marker? (line : Text) : Option Marker := (classify line).map Prod.fst

/-- Whether a line is a marker line. -/
def isMarkerLine (line : Text) : Bool := (classify line).isSome

end LuaAtlas
