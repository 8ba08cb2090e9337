import LuaAtlas.Declaration.Scan
import LuaAtlas.Draft.Typing

/-!
# Entering declarations

Declarations are entered into a draft one after the other, in the order of the files and lines.
-/

namespace LuaAtlas

namespace Draft

/-- A type tag is read, and made optional if its name has a question mark. -/
def readTagged (v : Vocabulary) (d : Draft) (type : Text) (optional : Bool) (file line : Nat) :
    Draft × Signature :=
  let r := d.readType v type file line
  (r.1, if optional then r.2.optionalOf else r.2)

/-! ### Functions -/

/-- A parameter is made for the function `owner`. -/
def addParameter (d : Draft) (owner : Nat) (name rawType : Text) (signature : Signature)
    (file line : Nat) : Draft × Member :=
  let r := d.fresh
  let param : Member :=
    { id := r.2, kind := .parameter, parent := owner, name, rawType, signature, file, line }
  ({ r.1 with parameters := r.1.parameters ++ [param] }, param)

/-- A note is entered: a parameter tag makes a parameter, and a tag without a type is reported. -/
def enterNote (v : Vocabulary) (file owner : Nat) (d : Draft) : Note → Draft × List Member
  | .param line name _ none => (d.report (.untypedParam name) file line, [])
  | .param line name optional (some type) =>
    let r := d.readTagged v type optional file line
    let p := r.1.addParameter owner name type r.2 file line
    (p.1, [p.2])
  | .returns line [] => (d.report .untypedReturn file line, [])
  | .returns _ (_ :: _) => (d, [])
  | .doc _ => (d, [])

/-- Notes are entered in order; the second result holds the parameters that they made. -/
def enterNotes (v : Vocabulary) (file owner : Nat) (d : Draft) : List Note → Draft × List Member
  | [] => (d, [])
  | note :: notes =>
    let r := d.enterNote v file owner note
    let rest := enterNotes v file owner r.1 notes
    (rest.1, r.2 ++ rest.2)

/-- The names in an argument list, apart from those that never count. -/
def argumentNames (v : Vocabulary) (arguments : Text) : List Text :=
  ((arguments.splitOn ',').map Text.trim).filter fun name =>
    !name.isEmpty && !v.implicitParams.contains name

/-- Untyped parameters are made from names. -/
def enterArguments (file owner line : Nat) (d : Draft) : List Text → Draft × List Member
  | [] => (d, [])
  | name :: names =>
    let r := d.addParameter owner name "any".toList (.primitive "any".toList) file line
    let rest := enterArguments file owner line r.1 names
    (rest.1, r.2 :: rest.2)

/-- Types are read in order, each at its own line. -/
def readTypes (v : Vocabulary) (file : Nat) (d : Draft) : List (Nat × Text) → Draft × List Signature
  | [] => (d, [])
  | (line, type) :: types =>
    let r := d.readType v type file line
    let rest := readTypes v file r.1 types
    (rest.1, r.2 :: rest.2)

end Draft

/-! ### What notes say -/

/-- Whether a note is a parameter tag. -/
def Note.isParam : Note → Bool
  | param .. => true
  | _ => false

/-- The doc comment that a note is. -/
def Note.doc? : Note → Option Text
  | doc text => some text
  | _ => none

/-- The values of a return tag with their line, if it has any. -/
def Note.values? : Note → Option (List (Nat × Text))
  | returns _ [] => none
  | returns line (type :: types) => some ((type :: types).map (line, ·))
  | _ => none

/-- The return values above a function, one list for each return tag with values. -/
def Note.returnGroups (notes : List Note) : List (List (Nat × Text)) := notes.filterMap Note.values?

/-- The description that doc comments make. -/
def Note.description (notes : List Note) : Text :=
  Text.trim (Text.join ['\n'] (notes.filterMap Note.doc?))

namespace Draft

/-- The main return value and the others.  The main one is the first value of the last return tag;
a function without return values returns the void type. -/
def chooseReturn (v : Vocabulary) (earlier : Nat) (signatures : List Signature) :
    Signature × List Signature :=
  match signatures.drop earlier with
  | [] => (.primitive v.voidName, [])
  | main :: later => (main, signatures.take earlier ++ later)

/-- **What the notes above a function and its argument list say about it.**  The argument list
counts only if no parameter tag stands above the function. -/
def enterRoutine (v : Vocabulary) (file owner : Nat) (d : Draft) (f : FunctionLine) :
    Draft × Routine :=
  let tagged := d.enterNotes v file owner f.notes
  let listed :=
    if f.notes.any Note.isParam then tagged
    else tagged.1.enterArguments file owner f.line (argumentNames v f.arguments)
  let groups := Note.returnGroups f.notes
  let values := listed.1.readTypes v file groups.flatten
  let returned := chooseReturn v groups.dropLast.flatten.length values.2
  (values.1,
    { params := listed.2, returns := returned.1, extraReturns := returned.2,
      declaration := f.text, description := Note.description f.notes })

/-- The symbols that a function mentions get edges: parameters first, then return values. -/
def trackRoutine (d : Draft) (returnKind : EdgeKind) (referencer : Nat) (r : Routine) : Draft :=
  (d.trackAll .parameter referencer (r.params.map (·.signature))).trackAll returnKind referencer
    r.allReturns

/-- A method is entered into the class with the given number; without a class it is reported. -/
def enterMethodInto (v : Vocabulary) (file : Nat) (d : Draft) (m : MethodLine) :
    Option Nat → Draft
  | none => d.report (.unknownOwner m.owner m.separator m.name) file m.line
  | some owner =>
    let r := d.fresh
    let routine := r.1.enterRoutine v file r.2 m.toFunctionLine
    let method : Method :=
      { id := r.2, parent := owner, name := m.name, routine := routine.2, file, line := m.line }
    let d := routine.1.modify owner (·.mapBody (·.addMethod method))
    ({ d with methods := d.methods ++ [method] }).trackRoutine .method r.2 routine.2

/-- The number of the class with a name. -/
def classNamed? (d : Draft) (name : Text) : Option Nat :=
  (d.table.find? name .classKind).map (·.id)

/-- A method outside of class blocks is entered into the class that has the name of its owner, which
has to be declared before. -/
def enterMethod (v : Vocabulary) (file : Nat) (d : Draft) (m : MethodLine) : Draft :=
  d.enterMethodInto v file m (d.classNamed? m.owner)

/-- A method in the block of a class is entered into this class if its owner has the name of the
class, and else into the class that has the name of its owner. -/
def enterBlockMethod (v : Vocabulary) (file current : Nat) (currentName : Text) (d : Draft)
    (m : MethodLine) : Draft :=
  d.enterMethodInto v file m (if currentName = m.owner then some current else d.classNamed? m.owner)

/-- A global function is entered; only its first declaration counts. -/
def enterFunction (v : Vocabulary) (file : Nat) (d : Draft) (name : Text) (f : FunctionLine) :
    Draft :=
  let r := d.declare .functionKind name file f.line
  match r.1.table.get? r.2 with
  | none => r.1
  | some s =>
    if s.routine?.isSome then r.1.report (.duplicateFunction name s.file s.firstLine) file f.line
    else
      let routine := r.1.enterRoutine v file r.2 f
      (routine.1.modify r.2 (·.mapBody (·.setRoutine routine.2))).trackRoutine .globalFunction r.2
        routine.2

/-! ### Classes -/

/-- A field is entered into its class. -/
def enterField (v : Vocabulary) (file owner : Nat) (ownerName : Text) (d : Draft) (f : FieldLine) :
    Draft :=
  match f.type with
  | none => d.report (.untypedField ownerName f.name) file f.line
  | some type =>
    let r := d.readTagged v type f.optional file f.line
    let n := r.1.fresh
    let property : Member :=
      { id := n.2, kind := .property, parent := owner, name := f.name, rawType := type,
        signature := r.2, file, line := f.line }
    let d := n.1.modify owner (·.mapBody (·.addProperty property))
    ({ d with properties := d.properties ++ [property] }).track .property n.2 r.2

/-- A field or method in the block of a class is entered. -/
def enterItem (v : Vocabulary) (file owner : Nat) (ownerName : Text) (d : Draft) :
    ClassItem → Draft
  | .field f => d.enterField v file owner ownerName f
  | .method m => d.enterBlockMethod v file owner ownerName m

/-- A class and its parent are linked, unless they are the same symbol. -/
def linkParent (d : Draft) (id parent : Nat) (name : Text) (file line : Nat) : Draft :=
  if parent = id then d.report (.selfParent name) file line
  else (d.modify id ({ · with parent := some parent })).modify parent (·.addChild id)

/-- A class is entered.  Its parent is resolved before the class is declared. -/
def enterClass (v : Vocabulary) (file : Nat) (d : Draft) (line lastLine : Nat) (name : Text)
    (parent : Option Text) (items : List ClassItem) : Draft :=
  let p : Draft × Option Nat :=
    match parent with
    | none => (d, none)
    | some parentName =>
      let r := d.resolve parentName file line
      (r.1, some r.2)
  let r := p.1.declare .classKind name file line
  let linked := match p.2 with
    | none => r.1
    | some parentId => r.1.linkParent r.2 parentId name file line
  let filled := items.foldl (enterItem v file r.2 name) linked
  filled.setLastLine r.2 file line lastLine

/-! ### Enumerations and aliases -/

/-- A value is entered into its enumeration. -/
def enterValue (file owner : Nat) (d : Draft) (e : EnumValue) : Draft :=
  let r := d.fresh
  let type := Literal.typeOfValue e.value
  let value : Member :=
    { id := r.2, kind := .enumValue, parent := owner, name := e.name, rawType := type,
      signature := .primitive type, value := some e.value, file, line := e.line }
  r.1.modify owner (·.mapBody (·.addValue value))

/-- The issue with the end of an enumeration. -/
def endingIssue? (name : Text) : EnumEnd → Option Issue
  | .closed => none
  | .interrupted => some (.interruptedEnum name)
  | .unclosed => some (.unclosedEnum name)

/-- An enumeration is entered. -/
def enterEnum (file : Nat) (d : Draft) (line lastLine : Nat) (name : Text)
    (values : List EnumValue) (ending : EnumEnd) : Draft :=
  let r := d.declare .enumKind name file line
  let filled := values.foldl (enterValue file r.2) r.1
  (filled.reportAll (endingIssue? name ending).toList file line).setLastLine r.2 file line lastLine

/-- An option is entered into its alias. -/
def enterOption (v : Vocabulary) (file owner : Nat) (d : Draft) : Nat × OptionText → Draft
  | (_, .literal text) =>
    d.modify owner (·.mapBody (·.addOption ⟨text, .primitive text⟩))
  | (line, .type text) =>
    let r := d.readType v text file line
    r.1.modify owner (·.mapBody (·.addOption ⟨text, r.2⟩))

/-- An alias with its type on its line is entered. -/
def enterAliasLine (v : Vocabulary) (file : Nat) (d : Draft) (line : Nat) (name target : Text) :
    Draft :=
  let r := d.declare .aliasKind name file line
  match TypeExpr.cut? target with
  | none => r.1.report (.untargetedAlias name) file line
  | some type => r.1.enterOption v file r.2 (line, .type type)

/-- Whether the symbol with a number stands for nothing. -/
def hasNoOptions (d : Draft) (id : Nat) : Bool :=
  ((d.table.get? id).map (·.options.isEmpty)).getD true

/-- An alias with options below it is entered.  It has to stand for something in the end. -/
def enterAliasBlock (v : Vocabulary) (file : Nat) (d : Draft) (line lastLine : Nat) (name : Text)
    (options : List (Nat × OptionText)) : Draft :=
  let r := d.declare .aliasKind name file line
  let filled := options.foldl (enterOption v file r.2) r.1
  let reported :=
    if filled.hasNoOptions r.2 then filled.report (.emptyAlias name) file line else filled
  reported.setLastLine r.2 file line lastLine

/-! ### Files -/

/-- **A declaration is entered.** -/
def enter (v : Vocabulary) (file : Nat) (d : Draft) : Declaration → Draft
  | .classDecl line lastLine name parent items =>
    d.enterClass v file line lastLine name parent items
  | .enumDecl line lastLine name values ending => d.enterEnum file line lastLine name values ending
  | .aliasLine line name target => d.enterAliasLine v file line name target
  | .aliasBlock line lastLine name options => d.enterAliasBlock v file line lastLine name options
  | .methodDecl m => d.enterMethod v file m
  | .functionDecl name f => d.enterFunction v file name f

/-- The declarations of a file are entered. -/
def enterFile (v : Vocabulary) (file : Nat) (d : Draft) (lines : List Text) : Draft :=
  (Declaration.ofLines lines).foldl (enter v file) d

/-- Files are entered in order; the first of them has the given index. -/
def enterFiles (v : Vocabulary) (file : Nat) (d : Draft) : List (List Text) → Draft
  | [] => d
  | lines :: rest => enterFiles v (file + 1) (d.enterFile v file lines) rest

end Draft

end LuaAtlas
