import LuaAtlas.Text.Basic

/-!
# The vocabulary of types

Which names are primitive types, which are containers and how a function type begins is a matter of
the annotations in use.  A `Vocabulary` holds these choices; `Vocabulary.standard` is the usual one.
-/

namespace LuaAtlas

/-- The words that a reader of types and declarations has to know.  The lists are sets: neither
their order nor a repetition matters. -/
structure Vocabulary where
  /-- The types that are no symbols. -/
  primitives : List Text
  /-- The containers of one type that are arrays. -/
  arrays : List Text
  /-- The containers from one type to another. -/
  maps : List Text
  /-- The containers of one type that are sets. -/
  sets : List Text
  /-- How a function type begins, with its opening parenthesis. -/
  functionOpening : Text
  /-- The return type of a function that names none. -/
  voidName : Text
  /-- The type whose presence in a union makes it optional. -/
  nilName : Text
  /-- The arguments that never count as parameters. -/
  implicitParams : List Text

/-- What a name in front of `<` stands for. -/
inductive Head where
  | array
  | map
  | set
  /-- Not a container: a symbol or a primitive with type arguments. -/
  | named
  deriving Repr, DecidableEq

/-- How many arguments a container takes; other names take any number. -/
def Head.arity? : Head → Option Nat
  | array => some 1
  | map => some 2
  | set => some 1
  | named => none

namespace Vocabulary

/-- What a name in front of `<` stands for. -/
def head (v : Vocabulary) (name : Text) : Head :=
  if v.arrays.contains name then .array
  else if v.maps.contains name then .map
  else if v.sets.contains name then .set
  else .named

/-- Whether a name is a primitive type. -/
def isPrimitive (v : Vocabulary) (name : Text) : Bool := v.primitives.contains name

/-- The usual vocabulary. -/
def standard : Vocabulary where
  primitives := List.map String.toList
    ["any", "nil", "boolean", "bool", "number", "integer", "string", "table", "function", "thread",
     "userdata", "lightuserdata", "unknown", "self", "void",
     "int", "int8", "int16", "int32", "int64", "uint8", "uint16", "uint32", "uint64",
     "int8_t", "int16_t", "int32_t", "int64_t", "uint8_t", "uint16_t", "uint32_t", "uint64_t",
     "size_t", "ssize_t", "byte", "float", "double", "char", "wchar",
     "FName", "FText", "FString"]
  arrays := List.map String.toList ["TArray", "Array", "array", "List", "list"]
  maps := List.map String.toList ["TMap", "Map", "map", "table", "Dictionary"]
  sets := List.map String.toList ["TSet", "Set", "set"]
  functionOpening := "fun(".toList
  voidName := "void".toList
  nilName := "nil".toList
  implicitParams := ["self".toList]

end Vocabulary

end LuaAtlas
