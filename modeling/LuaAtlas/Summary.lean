import LuaAtlas.Catalog.Basic

/-!
# Summaries

A summary is one short text about a symbol or method: the first sentence of its description, or else
a text made from its declaration.
-/

namespace LuaAtlas.Summary

/-- The greatest length of a summary that is taken from a text. -/
def limit : Nat := 120

/-- The text up to its first full stop, which is included. -/
def firstSentence (t : Text) : Text :=
  match t.dropWhile (· != '.') with
  | [] => t
  | stop :: _ => t.takeWhile (· != '.') ++ [stop]

/-- **The summary that a description gives**: the first sentence of its first line. -/
def ofDescription (description : Text) : Text :=
  let line := Text.trim ((Text.trim description).takeWhile (· != '\n'))
  (firstSentence line).take limit

/-- What remains when a function has no description: its declaration, or else its name. -/
def ofDeclaration (declaration : Text) (sort : String) (name : Text) : Text :=
  if declaration.isEmpty then sort.toList ++ ' ' :: name else declaration.take limit

/-- The first text that is not empty. -/
def orElse (t other : Text) : Text := if t.isEmpty then other else t

/-- The summary of a function from its description and its declaration. -/
def ofRoutine (sort : String) (name declaration description : Text) : Text :=
  orElse (ofDescription description) (ofDeclaration declaration sort name)

/-- How a class is described. -/
def classText (name : Text) (properties methods : Nat) (hasParent : Bool) : String :=
  let tail := if hasParent then ", has parent" else ""
  s!"Class {Text.str name} ({properties} properties, {methods} methods{tail})"

/-- How an alias is described. -/
def aliasText (name : Text) (values : List Text) : Text :=
  ("Alias ".toList ++ name ++ " = ".toList ++ Text.join " | ".toList values).take limit

/-- How an enumeration is described. -/
def enumText (name : Text) (values : Nat) : String := s!"Enum {Text.str name} ({values} values)"

/-- How a symbol is described of which only the kind and the name are known. -/
def bareText (kind : SymbolKind) (name : Text) : Text :=
  match kind with
  | .unknown => "Undeclared type ".toList ++ name
  | kind => kind.label.toList ++ ' ' :: name

/-- The text made from the declaration of a symbol. -/
def fallback (s : Symbol) : Text :=
  match s.body with
  | .unknown => bareText .unknown s.name
  | .classBody properties methods =>
    (classText s.name properties.length methods.length s.parent.isSome).toList
  | .enumBody values => (enumText s.name values.length).toList
  | .aliasBody options => aliasText s.name (options.map (·.text))
  | .functionBody routine =>
    ofDeclaration ((routine.map (·.declaration)).getD []) "Function" s.name

/-- The text made from the declaration of a method. -/
def methodFallback (m : Method) : Text := ofDeclaration m.routine.declaration "Method" m.name

/-- The summary of a method. -/
def ofMethod (m : Method) : Text :=
  orElse (ofDescription m.routine.description) (methodFallback m)

/-- **The summary of a symbol.** -/
def ofSymbol (s : Symbol) : Text :=
  match s.routine? with
  | some routine => orElse (ofDescription routine.description) (fallback s)
  | none => fallback s

/-- The summaries of symbols, each under the number of its symbol. -/
def table (symbols : List Symbol) : List (Nat × Text) := symbols.map fun s => (s.id, ofSymbol s)

/-- The summary that a table has under a number: of several the last, and nothing where the number
is missing. -/
def under (table : List (Nat × Text)) (id : Nat) : Text :=
  ((table.reverse.find? (·.1 == id)).map (·.2)).getD []

/-- The summary of a member: its kind and its name. -/
def ofMember (m : Member) : Text := m.kind.label.toList ++ ' ' :: m.name

/-- The summary of anything that has a number. -/
def ofItem : Item → Text
  | .symbol s => ofSymbol s
  | .method m => ofMethod m
  | .member m => ofMember m

end LuaAtlas.Summary
