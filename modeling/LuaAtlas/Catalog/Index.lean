import LuaAtlas.Catalog.Basic
import LuaAtlas.Text.Lowercase

/-!
# Looking up by name

An index lists names in lower case with the numbers they belong to, sorted by name and then by
number.  Names with a common beginning stand together in it, so they are found by a binary search
for the beginning (`NameIndex.lowerBound`) and a walk from there (`NameIndex.withBeginning`).
-/

namespace LuaAtlas

/-- A name in lower case and the number of what has it. -/
structure NameEntry where
  name : Text
  id : Nat
  deriving Repr, DecidableEq

namespace NameEntry

/-- The order of an index: by name, then by number. -/
def le (a b : NameEntry) : Bool := decide (a.name < b.name) || (a.name == b.name && a.id ≤ b.id)

end NameEntry

namespace NameIndex

/-- The index of names with numbers. -/
def ofNames (names : List (Text × Nat)) : List NameEntry :=
  (names.map fun n => (⟨Text.lower n.1, n.2⟩ : NameEntry)).mergeSort NameEntry.le

/-- The first position from `low` on and before `high` whose name is not below `name`; `high` if
there is none. -/
def lowerBound (index : Array NameEntry) (name : Text) (low high : Nat) : Nat :=
  if low < high then
    let middle := (low + high) / 2
    match index[middle]? with
    | some e =>
      if e.name < name then lowerBound index name (middle + 1) high
      else lowerBound index name low middle
    | none => low
  else low
termination_by high - low

/-- **The entries whose name begins with the given text**, in the order of the index. -/
def withBeginning (index : List NameEntry) (start : Text) : List NameEntry :=
  let first := lowerBound index.toArray start 0 index.length
  (index.drop first).takeWhile fun e => Text.beginsWith start e.name

end NameIndex

namespace Catalog

/-- The index of symbols. -/
def symbolIndex (symbols : List Symbol) : List NameEntry :=
  NameIndex.ofNames (symbols.map fun s => (s.name, s.id))

/-- The index of members. -/
def memberIndex (members : List Member) : List NameEntry :=
  NameIndex.ofNames (members.map fun m => (m.name, m.id))

/-- The index of methods. -/
def methodIndex (methods : List Method) : List NameEntry :=
  NameIndex.ofNames (methods.map fun m => (m.name, m.id))

/-- The index of the symbols of a kind, or of all declared symbols. -/
def namesFor (c : Catalog) : Option SymbolKind → List NameEntry
  | none => symbolIndex c.declared
  | some kind => symbolIndex (c.ofKind kind)

/-- The index entries that begin with a text, upper and lower case being the same. -/
def findByBeginning (c : Catalog) (start : Text) (kind : Option SymbolKind) : List NameEntry :=
  NameIndex.withBeginning (c.namesFor kind) (Text.lower start)

/-- **The symbol with exactly this name**; of several the one with the lowest number. -/
def find? (c : Catalog) (name : Text) (kind : Option SymbolKind) : Option Symbol :=
  (c.findByBeginning name kind).findSome? fun e => (c.get? e.id).filter (·.name == name)

end Catalog

end LuaAtlas
