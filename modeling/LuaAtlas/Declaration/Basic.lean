import LuaAtlas.Text.Basic

/-!
# Declarations

What the lines of a file declare, before any name is resolved and any number is given.  A
declaration keeps the number of its marker line, and so does everything inside it that has a line of
its own.
-/

namespace LuaAtlas

/-- A line above a function that adds to its signature or description. -/
inductive Note where
  /-- A parameter tag; one without a type is a fault. -/
  | param (line : Nat) (name : Text) (optional : Bool) (type : Option Text)
  /-- A return tag with the types of its values; one without any is a fault. -/
  | returns (line : Nat) (types : List Text)
  /-- A doc comment. -/
  | doc (text : Text)
  deriving Repr, DecidableEq

/-- The line that declares a function, with its argument list and the notes above it in the order of
the file. -/
structure FunctionLine where
  line : Nat
  text : Text
  arguments : Text
  notes : List Note
  deriving Repr, DecidableEq

/-- The line that declares a method. -/
structure MethodLine extends FunctionLine where
  owner : Text
  separator : Char
  name : Text
  deriving Repr, DecidableEq

/-- The line of a field; one without a type is a fault. -/
structure FieldLine where
  line : Nat
  name : Text
  optional : Bool
  type : Option Text
  deriving Repr, DecidableEq

/-- What stands inside the block of a class. -/
inductive ClassItem where
  | field (field : FieldLine)
  | method (method : MethodLine)
  deriving Repr, DecidableEq

/-- A value of an enumeration. -/
structure EnumValue where
  line : Nat
  name : Text
  value : Text
  deriving Repr, DecidableEq

/-- How the block of an enumeration ends. -/
inductive EnumEnd where
  /-- With a closing brace. -/
  | closed
  /-- In front of another declaration. -/
  | interrupted
  /-- At the end of the file. -/
  | unclosed
  deriving Repr, DecidableEq

/-- An option in the block of an alias. -/
inductive OptionText where
  /-- A type. -/
  | type (text : Text)
  /-- A literal between backquotes. -/
  | literal (text : Text)
  deriving Repr, DecidableEq

/-- **A declaration** with the number of its marker line and, for a block, of its last line. -/
inductive Declaration where
  | classDecl (line lastLine : Nat) (name : Text) (parent : Option Text) (items : List ClassItem)
  | enumDecl (line lastLine : Nat) (name : Text) (values : List EnumValue) (ending : EnumEnd)
  /-- An alias whose type stands on its line. -/
  | aliasLine (line : Nat) (name target : Text)
  /-- An alias whose options stand on the lines below it. -/
  | aliasBlock (line lastLine : Nat) (name : Text) (options : List (Nat × OptionText))
  | methodDecl (method : MethodLine)
  | functionDecl (name : Text) (function : FunctionLine)
  deriving Repr, DecidableEq

end LuaAtlas
