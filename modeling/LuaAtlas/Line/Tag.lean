import LuaAtlas.Name
import LuaAtlas.Text.WordChar

/-!
# Lines inside a block

The lines that belong to a declaration without declaring a symbol themselves: fields of a class,
parameters and return values of a function, options of an alias, entries of an enumeration, doc
comments and modifiers.  Each reader gives what the line says and the rest of the line behind it.
-/

namespace LuaAtlas.Tag

/-! ### Fields, parameters and return values -/

/-- A tagged name; `optional` says whether a question mark follows the name. -/
structure Named where
  name : Text
  optional : Bool
  deriving Repr, DecidableEq

/-- One or more blanks, or the end of the text. -/
def skipGap? : Text → Option Text
  | [] => some []
  | t => Text.skipBlanks? t

/-- A question mark if there is one, then a gap. -/
def readMark? (name rest : Text) : Option (Named × Text) :=
  match rest with
  | '?' :: cs => (skipGap? cs).map (⟨name, true⟩, ·)
  | cs => (skipGap? cs).map (⟨name, false⟩, ·)

/-- The words that may stand in front of a field's name. -/
def visibilities : List Text :=
  ["public".toList, "private".toList, "protected".toList, "package".toList]

/-- A visibility word and the blanks behind it. -/
def skipVisibility? (t : Text) : Option Text :=
  (visibilities.findSome? fun w => Text.after? w t).bind Text.skipBlanks?

/-- A field's name with its question mark. -/
def readField? (t : Text) : Option (Named × Text) :=
  (Name.read? t).bind fun r => readMark? r.1 r.2

/-- `---@field`, a visibility if wanted, and the field.  Where the word behind the visibility is no
field, the visibility word itself is the name. -/
def field? (line : Text) : Option (Named × Text) := do
  let t ← Text.after? "---@field".toList line
  let t ← Text.skipBlanks? t
  ((skipVisibility? t).bind readField?).or (readField? t)

/-- `---@param` and the parameter. -/
def param? (line : Text) : Option (Named × Text) := do
  let t ← Text.after? "---@param".toList (Text.trimLeft line)
  let t ← Text.skipBlanks? t
  let (name, rest) ← Name.readParam? t
  readMark? name rest

/-- `---@return` and the gap behind it. -/
def return? (line : Text) : Option Text :=
  (Text.after? "---@return".toList (Text.trimLeft line)).bind skipGap?

/-! ### Ends of lines -/

/-- The rest of a line behind a comment that reaches to the end of the line; a final line feed
stands behind it. -/
def commentEnd? (t : Text) : Option Text :=
  match t.dropWhile (· != '\n') with
  | [] => some []
  | ['\n'] => some ['\n']
  | _ => none

/-! ### Options of an alias -/

/-- Blanks and a comment from `#` on, if wanted, end an option. -/
def optionEnd? (t : Text) : Option Text :=
  match Text.trimLeft t with
  | [] => some []
  | '#' :: cs => commentEnd? cs
  | _ => none

/-- The shortest option in front of an end. -/
def readOption? : Text → Option (Text × Text)
  | [] => some ([], [])
  | c :: cs =>
    match optionEnd? (c :: cs) with
    | some rest => some ([], rest)
    | none => if c == '\n' then none else (readOption? cs).map fun r => (c :: r.1, r.2)

/-- A `>` or `+` that marks an option is skipped. -/
def skipOptionMark : Text → Text
  | '>' :: cs => cs
  | '+' :: cs => cs
  | cs => cs

/-- `---|`, a mark if wanted, and the option without the blanks around it. -/
def option? (line : Text) : Option (Text × Text) := do
  let t ← Text.after? "---|".toList line
  readOption? (Text.trimLeft (skipOptionMark t))

/-! ### Entries of an enumeration -/

/-- An entry of an enumeration; `quoted` says whether its key stands in brackets and quotes. -/
structure Entry where
  quoted : Bool
  key : Text
  value : Text
  deriving Repr, DecidableEq

/-- The two quotes. -/
def isQuote (c : Char) : Bool := c == '"' || c == '\''

/-- A key in brackets and quotes.  The two quotes need not be the same. -/
def readQuotedKey? (t : Text) : Option (Text × Text) :=
  match t with
  | '[' :: cs =>
    match Text.trimLeft cs with
    | q :: cs =>
      if isQuote q then
        match cs.takeWhile (!isQuote ·), cs.dropWhile (!isQuote ·) with
        | c :: key, _ :: rest =>
          match Text.trimLeft rest with
          | ']' :: rest => some (c :: key, rest)
          | _ => none
        | _, _ => none
      else none
    | [] => none
  | _ => none

/-- The key of an entry, with or without brackets. -/
def readKey? (t : Text) : Option (Bool × Text × Text) :=
  ((readQuotedKey? t).map (true, ·)).or ((Name.read? t).map (false, ·))

/-- A comment from two dashes on, or nothing, ends a value behind its comma. -/
def afterComma? (t : Text) : Option Text :=
  match t with
  | [] => some []
  | '-' :: '-' :: cs => commentEnd? cs
  | _ => none

/-- Blanks, a comma if wanted, blanks and a comment if wanted end a value. -/
def valueEnd? (t : Text) : Option Text :=
  match Text.trimLeft t with
  | ',' :: cs => afterComma? (Text.trimLeft cs)
  | cs => afterComma? cs

/-- The characters that no value holds. -/
def endsValue (c : Char) : Bool := c == ',' || c == '{' || c == '}'

/-- The shortest value of one or more characters in front of an end. -/
def readValue? : Text → Option (Text × Text)
  | [] => none
  | c :: cs =>
    if endsValue c then none
    else
      match valueEnd? cs with
      | some rest => some ([c], rest)
      | none => (readValue? cs).map fun r => (c :: r.1, r.2)

/-- The value behind an equals sign.  Where only blanks stand in front of the end, the last of them
is the value. -/
def readAssigned? (t : Text) : Option (Text × Text) :=
  let blanks := t.takeWhile Text.isBlank
  let rest := Text.trimLeft t
  (readValue? rest).or do
    let last ← blanks.getLast?
    let rest ← valueEnd? rest
    some ([last], rest)

/-- A key, an equals sign and a value. -/
def entry? (line : Text) : Option (Entry × Text) := do
  let (quoted, key, rest) ← readKey? (Text.trimLeft line)
  match Text.trimLeft rest with
  | '=' :: cs => do
    let (value, rest) ← readAssigned? cs
    some (⟨quoted, key, value⟩, rest)
  | _ => none

/-! ### Doc comments and modifiers -/

/-- `---` and the comment behind it, which begins with neither `@` nor `|`. -/
def doc? (line : Text) : Option (Text × Text) := do
  let t ← Text.after? "---".toList (Text.trimLeft line)
  match t with
  | '@' :: _ => none
  | '|' :: _ => none
  | _ => do
    let rest ← commentEnd? t
    some (t.takeWhile (· != '\n'), rest)

/-- The tags that describe a function without adding to its signature. -/
def modifiers : List Text :=
  ["nodiscard".toList, "deprecated".toList, "async".toList, "overload".toList, "see".toList,
   "generic".toList]

/-- Whether no word goes on at the front of a text. -/
def endsWord : Text → Bool
  | [] => true
  | c :: _ => !Text.isWordChar c

/-- `---@` and a modifier as a whole word. -/
def modifier? (line : Text) : Option Text := do
  let t ← Text.after? "---@".toList (Text.trimLeft line)
  let rest ← modifiers.findSome? fun w => Text.after? w t
  if endsWord rest then some rest else none

end LuaAtlas.Tag
