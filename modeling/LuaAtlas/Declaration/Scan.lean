import LuaAtlas.Declaration.Basic
import LuaAtlas.Line.Marker
import LuaAtlas.Line.Tag
import LuaAtlas.Literal
import LuaAtlas.TypeExpr.Cut

/-!
# From lines to declarations

`declarations` walks down the lines of a file.  A marker line starts a declaration, which may take
lines below it into its block; the walk goes on behind the block.  A function also takes the notes
in the unbroken run of lines right above it.  The walk keeps the lines above the present one,
nearest first, and counts them, so the line after `n` lines has the number `n + 1`.
-/

namespace LuaAtlas.Declaration

/-! ### Notes above a function -/

/-- What a line above a function is: a note, a modifier to be passed over, or neither. -/
def noteOf? (line : Nat) (text : Text) : Option (Option Note) :=
  match Tag.param? text with
  | some (tag, rest) => some (some (.param line tag.name tag.optional (TypeExpr.cut? rest)))
  | none =>
    match Tag.return? text with
    | some rest => some (some (.returns line (TypeExpr.returnTypes rest)))
    | none =>
      match Tag.doc? text with
      | some (comment, _) => some (some (.doc (Text.trim comment)))
      | none => (Tag.modifier? text).map fun _ => none

/-- The notes in the lines above, nearest first, up to the first line that is neither a note nor a
modifier.  `count` is the number of the nearest line. -/
def notesUp (count : Nat) : List Text → List Note
  | [] => []
  | text :: above =>
    match noteOf? count text with
    | some note => note.toList ++ notesUp (count - 1) above
    | none => []

/-- **The notes of a function** below the given lines, in the order of the file. -/
def notesAbove (above : List Text) (count : Nat) : List Note := (notesUp count above).reverse

/-- The line of a function below `count` lines. -/
def functionLine (above : List Text) (count : Nat) (text arguments : Text) : FunctionLine :=
  { line := count + 1, text := Text.trim text, arguments, notes := notesAbove above count }

/-- The line of a method below `count` lines. -/
def methodLine (above : List Text) (count : Nat) (text owner : Text) (separator : Char)
    (name arguments : Text) : MethodLine :=
  { functionLine above count text arguments with owner, separator, name }

/-! ### Blocks of classes -/

/-- Whether a line ends the block of a class: every marker but a method's does. -/
def endsClass (text : Text) : Bool :=
  match marker? text with
  | none => false
  | some (.method ..) => false
  | some _ => true

/-- What stands in the block of a class. -/
def classItems (above : List Text) (count : Nat) : List Text → List ClassItem
  | [] => []
  | text :: below =>
    let items := classItems (text :: above) (count + 1) below
    match marker? text with
    | some (.method owner separator name arguments) =>
      .method (methodLine above count text owner separator name arguments) :: items
    | some _ => items
    | none =>
      match Tag.field? text with
      | some (tag, rest) =>
        .field ⟨count + 1, tag.name, tag.optional, TypeExpr.cut? rest⟩ :: items
      | none => items

/-! ### Blocks of enumerations -/

/-- The part of a text in front of two dashes. -/
def beforeComment : Text → Text
  | [] => []
  | '-' :: '-' :: _ => []
  | c :: cs => c :: beforeComment cs

/-- The values between top-level commas. -/
def enumValues (line : Nat) (text : Text) : List EnumValue :=
  (Bracket.splitTop ',' text).filterMap fun piece =>
    (Tag.entry? piece).map fun r => ⟨line, r.1.key, Text.trim r.1.value⟩

/-- What follows the first opening brace of a line. -/
def afterBrace? (text : Text) : Option Text :=
  match text.dropWhile (· != '{') with
  | [] => none
  | _ :: rest => some rest

/-- The block of an enumeration: its values, how it ends and how many lines it takes. -/
structure EnumBlock where
  values : List EnumValue
  ending : EnumEnd
  taken : Nat

/-- The block with a line, and the values in it, put in front. -/
def EnumBlock.cons (values : List EnumValue) (block : EnumBlock) : EnumBlock :=
  { block with values := values ++ block.values, taken := block.taken + 1 }

/-- **The block of an enumeration** in the lines below it.  Lines are passed over until the first
opening brace; from there on they hold values, up to the closing brace. -/
def enumBlock (isOpen : Bool) (count : Nat) : List Text → EnumBlock
  | [] => ⟨[], .unclosed, 0⟩
  | text :: below =>
    if isMarkerLine text then ⟨[], .interrupted, 0⟩
    else
      match if isOpen then some text else afterBrace? text with
      | none => (enumBlock false (count + 1) below).cons []
      | some inside =>
        let body := beforeComment inside
        let values := enumValues (count + 1) (body.takeWhile (· != '}'))
        if body.contains '}' then ⟨values, .closed, 1⟩
        else (enumBlock true (count + 1) below).cons values

/-! ### Blocks of aliases -/

/-- The option that a text is. -/
def optionText? (option : Text) : Option OptionText :=
  if Literal.isBetween ['\x60'] option then
    some (.literal (Text.trim (option.drop 1).dropLast))
  else (TypeExpr.cut? option).map .type

/-- The options in the block of an alias. -/
def aliasOptions (count : Nat) : List Text → List (Nat × OptionText)
  | [] => []
  | text :: below =>
    let option := ((Tag.option? text).map (·.1)).bind optionText?
    (option.map (count + 1, ·)).toList ++ aliasOptions (count + 1) below

/-! ### The walk -/

/-- The declaration that a marker line starts, and how many of the lines below it belong to its
block. -/
def ofMarker (above : List Text) (count : Nat) (text : Text) (below : List Text) :
    Marker → Declaration × Nat
  | .classDef name parent =>
    let block := below.takeWhile (!endsClass ·)
    (classDecl (count + 1) (count + 1 + block.length) name parent
      (classItems (text :: above) (count + 1) block), block.length)
  | .enumDef name =>
    let block := enumBlock false (count + 1) below
    (enumDecl (count + 1) (count + 1 + block.taken) name block.values block.ending, block.taken)
  | .aliasDef name (some target) => (aliasLine (count + 1) name target, 0)
  | .aliasDef name none =>
    let block := below.takeWhile (!isMarkerLine ·)
    (aliasBlock (count + 1) (count + 1 + block.length) name (aliasOptions (count + 1) block),
      block.length)
  | .method owner separator name arguments =>
    (methodDecl (methodLine above count text owner separator name arguments), 0)
  | .function name arguments => (functionDecl name (functionLine above count text arguments), 0)

/-- The declarations in the lines below the given ones. -/
def scan (above : List Text) (count : Nat) : List Text → List Declaration
  | [] => []
  | text :: below =>
    match marker? text with
    | none => scan (text :: above) (count + 1) below
    | some marker =>
      let r := ofMarker above count text below marker
      r.1 :: scan ((below.take r.2).reverse ++ text :: above) (count + 1 + r.2) (below.drop r.2)
termination_by lines => lines.length

/-- **The declarations of a file**, in the order of its lines. -/
def ofLines (lines : List Text) : List Declaration := scan [] 0 lines

end LuaAtlas.Declaration
