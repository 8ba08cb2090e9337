/-!
# Kinds of symbols

A symbol is declared as a class, an enumeration, an alias or a global function.  A name that is used
and not declared so far is of the kind `unknown`.
-/

namespace LuaAtlas

/-- What a symbol was declared as. -/
inductive SymbolKind where
  | classKind
  | enumKind
  | aliasKind
  | functionKind
  /-- Used as a type and not declared. -/
  | unknown
  deriving Repr, DecidableEq

namespace SymbolKind

/-- All kinds, the declared ones first. -/
def all : List SymbolKind := [classKind, enumKind, aliasKind, functionKind, unknown]

/-- The kinds that a declaration gives. -/
def declared : List SymbolKind := [classKind, enumKind, aliasKind, functionKind]

/-- The name of a kind. -/
def label : SymbolKind → String
  | classKind => "Class"
  | enumKind => "Enum"
  | aliasKind => "Alias"
  | functionKind => "GlobalFunction"
  | unknown => "Unknown"

/-- The kind with a given name. -/
def ofLabel? (label : String) : Option SymbolKind := all.find? (·.label == label)

/-- Every kind is found under its name. -/
theorem ofLabel?_label (k : SymbolKind) : ofLabel? k.label = some k := by
  cases k <;> decide

end SymbolKind

end LuaAtlas
