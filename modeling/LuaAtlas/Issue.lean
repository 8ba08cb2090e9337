import LuaAtlas.Text.Basic
import LuaAtlas.Symbol.Kind

/-!
# Issues

What can be wrong with a declaration or a type.  Reading goes on after each of them; a `Diagnostic`
says where one was met.  Each issue has a short code and a message.
-/

namespace LuaAtlas

/-- What is wrong with a declaration or a type. -/
inductive Issue where
  /-- A type without any text. -/
  | emptyType
  /-- A text that is no type. -/
  | unrecognizedType (type : Text)
  /-- A generic type without usable arguments. -/
  | malformedGeneric (type : Text)
  /-- A function type whose parenthesis is never closed. -/
  | unclosedFunction (type : Text)
  /-- A field without a type. -/
  | untypedField (owner name : Text)
  /-- A parameter tag without a type. -/
  | untypedParam (name : Text)
  /-- A return tag without a type. -/
  | untypedReturn
  /-- A name declared under two kinds; the first declaration stands at `file` and `line`. -/
  | kindConflict (name : Text) (kind earlier : SymbolKind) (file line : Nat)
  /-- A class that names itself as its parent. -/
  | selfParent (name : Text)
  /-- A method of a class that was not declared before it. -/
  | unknownOwner (owner : Text) (separator : Char) (name : Text)
  /-- A global function that was declared before, at `file` and `line`. -/
  | duplicateFunction (name : Text) (file line : Nat)
  /-- An enumeration that ends where another declaration begins. -/
  | interruptedEnum (name : Text)
  /-- An enumeration that is open at the end of its file. -/
  | unclosedEnum (name : Text)
  /-- An alias that stands for nothing. -/
  | emptyAlias (name : Text)
  /-- An alias with a text on its line that holds no type. -/
  | untargetedAlias (name : Text)
  deriving Repr, DecidableEq

namespace Issue

/-- The code under which issues of one sort are counted. -/
def code : Issue → String
  | emptyType => "missing-type"
  | unrecognizedType _ => "unrecognized-type"
  | malformedGeneric _ => "malformed-generic"
  | unclosedFunction _ => "malformed-generic"
  | untypedField _ _ => "missing-type"
  | untypedParam _ => "missing-type"
  | untypedReturn => "missing-type"
  | kindConflict .. => "kind-conflict"
  | selfParent _ => "self-parent"
  | unknownOwner .. => "unknown-owner"
  | duplicateFunction .. => "duplicate-declaration"
  | interruptedEnum _ => "unterminated-enum"
  | unclosedEnum _ => "unterminated-enum"
  | emptyAlias _ => "unresolved-alias"
  | untargetedAlias _ => "unresolved-alias"

/-- What an issue tells the reader. -/
def message : Issue → String
  | emptyType => "Empty type expression"
  | unrecognizedType type => s!"Unrecognized type expression: {Text.str type}"
  | malformedGeneric type => s!"Malformed generic type: {Text.str type}"
  | unclosedFunction type => s!"Unbalanced function type: {Text.str type}"
  | untypedField owner name => s!"Field {Text.str owner}.{Text.str name} has no type"
  | untypedParam name => s!"Parameter {Text.str name} has no type"
  | untypedReturn => "Return marker has no type"
  | kindConflict name kind earlier file line =>
    s!"{Text.str name} declared as {kind.label} but already declared as {earlier.label} " ++
      s!"(file {file} line {line})"
  | selfParent name => s!"Class {Text.str name} lists itself as parent"
  | unknownOwner owner separator name =>
    s!"Method {Text.str owner}{separator}{Text.str name} found for unknown class {Text.str owner}"
  | duplicateFunction name file line =>
    s!"Function {Text.str name} already declared at file {file} line {line}"
  | interruptedEnum name => s!"Enum {Text.str name} has no closing brace"
  | unclosedEnum name => s!"Enum {Text.str name} runs to end of file"
  | emptyAlias name => s!"Alias {Text.str name} has no options"
  | untargetedAlias name => s!"Alias {Text.str name} has no target type"

end Issue

/-- An issue and where it was met: the index of the file and the number of the line. -/
structure Diagnostic where
  issue : Issue
  file : Nat
  line : Nat
  deriving Repr, DecidableEq

end LuaAtlas
