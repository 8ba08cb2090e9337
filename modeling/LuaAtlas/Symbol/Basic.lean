import LuaAtlas.Symbol.Kind
import LuaAtlas.TypeExpr.Node

/-!
# Symbols and their members

A symbol is a name with a kind.  What a symbol holds beyond its name and place depends on its kind
and is its `Body`.  Symbols, methods and members are all numbered from one counter.
-/

namespace LuaAtlas

/-! ### Edges -/

/-- How a declaration mentions a symbol. -/
inductive EdgeKind where
  /-- As the type of a property. -/
  | property
  /-- As the type of a parameter of a method or global function. -/
  | parameter
  /-- As a return type of a method. -/
  | method
  /-- As a return type of a global function. -/
  | globalFunction
  deriving Repr, DecidableEq

namespace EdgeKind

/-- All kinds of edges. -/
def all : List EdgeKind := [property, parameter, method, globalFunction]

/-- The name of a kind of edges. -/
def label : EdgeKind → String
  | property => "property"
  | parameter => "parameter"
  | method => "method"
  | globalFunction => "global-function"

/-- The kind of edges with a given name. -/
def ofLabel? (label : String) : Option EdgeKind := all.find? (·.label == label)

end EdgeKind

/-- An edge on a symbol: the number of the property, method or function that mentions it, and how
it does so. -/
structure Edge where
  referencer : Nat
  kind : EdgeKind
  deriving Repr, DecidableEq

/-! ### Members -/

/-- The kinds of members. -/
inductive MemberKind where
  | property
  | parameter
  | enumValue
  deriving Repr, DecidableEq

/-- The name of a kind of members. -/
def MemberKind.label : MemberKind → String
  | property => "property"
  | parameter => "parameter"
  | enumValue => "enum-value"

/-- A property of a class, a parameter of a function or a value of an enumeration. -/
structure Member where
  id : Nat
  kind : MemberKind
  /-- The number of the class, enumeration, method or function that holds the member. -/
  parent : Nat
  name : Text
  /-- The type as written. -/
  rawType : Text
  signature : Signature
  /-- The literal of an enumeration's value. -/
  value : Option Text := none
  file : Nat
  line : Nat

/-- What is known about a function: its parameters, its return values, its line and its
description. -/
structure Routine where
  params : List Member
  returns : Signature
  /-- The return values other than the first of the last return line, in the order of the file. -/
  extraReturns : List Signature
  /-- The line that declares the function. -/
  declaration : Text
  description : Text

/-- The return values of a function, the main one first. -/
def Routine.allReturns (r : Routine) : List Signature := r.returns :: r.extraReturns

/-- A method of a class. -/
structure Method where
  id : Nat
  /-- The number of the class. -/
  parent : Nat
  name : Text
  routine : Routine
  file : Nat
  line : Nat

/-! ### Symbols -/

/-- One of the types that an alias stands for: its text and what it was read as. -/
structure AliasOption where
  text : Text
  signature : Signature

/-- What a symbol holds by its kind. -/
inductive Body where
  | unknown
  | classBody (properties : List Member) (methods : List Method)
  | enumBody (values : List Member)
  | aliasBody (options : List AliasOption)
  /-- A global function; nothing is known of it until its declaration was read. -/
  | functionBody (routine : Option Routine)

namespace Body

/-- The kind of the symbols with such a body. -/
def kind : Body → SymbolKind
  | unknown => .unknown
  | classBody .. => .classKind
  | enumBody _ => .enumKind
  | aliasBody _ => .aliasKind
  | functionBody _ => .functionKind

/-- The body of a new symbol. -/
def empty : SymbolKind → Body
  | .unknown => unknown
  | .classKind => classBody [] []
  | .enumKind => enumBody []
  | .aliasKind => aliasBody []
  | .functionKind => functionBody none

/-- A new symbol is of the kind it was made for. -/
theorem kind_empty (k : SymbolKind) : (empty k).kind = k := by
  cases k <;> rfl

/-- A property is added to a class. -/
def addProperty (property : Member) : Body → Body
  | classBody properties methods => classBody (properties ++ [property]) methods
  | body => body

/-- A method is added to a class. -/
def addMethod (method : Method) : Body → Body
  | classBody properties methods => classBody properties (methods ++ [method])
  | body => body

/-- A value is added to an enumeration. -/
def addValue (value : Member) : Body → Body
  | enumBody values => enumBody (values ++ [value])
  | body => body

/-- An option is added to an alias. -/
def addOption (option : AliasOption) : Body → Body
  | aliasBody options => aliasBody (options ++ [option])
  | body => body

/-- What was read of a global function is kept. -/
def setRoutine (routine : Routine) : Body → Body
  | functionBody _ => functionBody (some routine)
  | body => body

end Body

/-- A symbol.  Its parent and children are kept for every kind, since a name may be used as a parent
before it is declared. -/
structure Symbol where
  id : Nat
  name : Text
  file : Nat
  firstLine : Nat
  lastLine : Nat
  /-- The edges in the order in which they were met, none of them twice. -/
  references : List Edge := []
  parent : Option Nat := none
  children : List Nat := []
  body : Body

namespace Symbol

/-- The kind of a symbol. -/
def kind (s : Symbol) : SymbolKind := s.body.kind

/-- The properties of a class. -/
def properties (s : Symbol) : List Member :=
  match s.body with
  | .classBody properties _ => properties
  | _ => []

/-- The methods of a class. -/
def methods (s : Symbol) : List Method :=
  match s.body with
  | .classBody _ methods => methods
  | _ => []

/-- The values of an enumeration. -/
def values (s : Symbol) : List Member :=
  match s.body with
  | .enumBody values => values
  | _ => []

/-- What an alias stands for. -/
def options (s : Symbol) : List AliasOption :=
  match s.body with
  | .aliasBody options => options
  | _ => []

/-- What is known of a global function. -/
def routine? (s : Symbol) : Option Routine :=
  match s.body with
  | .functionBody routine => routine
  | _ => none

/-- An edge is added unless it is there. -/
def addReference (edge : Edge) (s : Symbol) : Symbol :=
  if s.references.contains edge then s else { s with references := s.references ++ [edge] }

/-- A child is added unless it is there. -/
def addChild (child : Nat) (s : Symbol) : Symbol :=
  if s.children.contains child then s else { s with children := s.children ++ [child] }

/-- The body of a symbol is changed. -/
def mapBody (f : Body → Body) (s : Symbol) : Symbol := { s with body := f s.body }

/-- Whether a symbol was declared first at a place. -/
def isDeclaredAt (s : Symbol) (file line : Nat) : Bool := s.file == file && s.firstLine == line

end Symbol

end LuaAtlas
