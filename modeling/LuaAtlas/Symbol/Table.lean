import LuaAtlas.Issue
import LuaAtlas.Symbol.Basic

/-!
# The symbol table

The table holds every symbol that was met, in the order of its number, and the counter from which
symbols, methods and members are numbered.  A name that is used before it is declared gets an
unknown symbol; the declaration then gives that symbol its kind and place, so its number and its
edges stay (`promote`).  A name may be declared under several kinds, which is a conflict worth an
issue; a name with an unknown symbol has no other symbol.
-/

namespace LuaAtlas

/-- The symbols that were met, by increasing number, and the next free number. -/
structure SymbolTable where
  symbols : List Symbol := []
  nextId : Nat := 0

namespace SymbolTable

/-! ### Looking up -/

/-- The symbol with a number. -/
def get? (t : SymbolTable) (id : Nat) : Option Symbol := t.symbols.find? (·.id == id)

/-- The symbols with a name, by increasing number. -/
def named (t : SymbolTable) (name : Text) : List Symbol := t.symbols.filter (·.name == name)

/-- The symbol with a name and a kind. -/
def find? (t : SymbolTable) (name : Text) (kind : SymbolKind) : Option Symbol :=
  t.symbols.find? fun s => s.name == name && s.kind == kind

/-- **The symbol that a name stands for**: the first one that was declared, else the unknown one. -/
def lookup? (t : SymbolTable) (name : Text) : Option Symbol :=
  ((t.named name).find? (·.kind != .unknown)).or (t.named name).head?

/-- The number of the symbol that a name stands for; a name without a symbol would get the next
number. -/
def idOf (t : SymbolTable) (name : Text) : Nat := ((t.lookup? name).map (·.id)).getD t.nextId

/-! ### Changing -/

/-- The next free number is taken. -/
def fresh (t : SymbolTable) : SymbolTable × Nat := ({ t with nextId := t.nextId + 1 }, t.nextId)

/-- The symbol with a number is changed. -/
def modify (t : SymbolTable) (id : Nat) (f : Symbol → Symbol) : SymbolTable :=
  { t with symbols := t.symbols.map fun s => if s.id == id then f s else s }

/-- A symbol is added under the next free number. -/
def create (t : SymbolTable) (kind : SymbolKind) (name : Text) (file line : Nat) :
    SymbolTable × Nat :=
  ({ symbols := t.symbols ++
        [{ id := t.nextId, name, file, firstLine := line, lastLine := line, body := .empty kind }],
     nextId := t.nextId + 1 }, t.nextId)

/-- An unknown symbol gets the kind and place of its declaration. -/
def promote (t : SymbolTable) (id : Nat) (kind : SymbolKind) (file line : Nat) : SymbolTable :=
  t.modify id fun s => { s with file, firstLine := line, lastLine := line, body := .empty kind }

/-- The symbol, declared before under another kind, that a new declaration is in conflict with. -/
def conflict? (t : SymbolTable) (kind : SymbolKind) (name : Text) : Option Issue :=
  if kind = .unknown then none
  else
    ((t.named name).find? fun s => s.kind != .unknown && s.kind != kind).map fun s =>
      .kindConflict name kind s.kind s.file s.firstLine

/-- What a declaration does to the table: the table after it, the number of the declared symbol and
the conflict that it makes. -/
structure Outcome where
  table : SymbolTable
  id : Nat
  conflict : Option Issue := none

/-- A name is used as a type: its symbol is found, or an unknown one is made for it. -/
def resolve (t : SymbolTable) (name : Text) (file line : Nat) : SymbolTable × Nat :=
  match t.lookup? name with
  | some s => (t, s.id)
  | none => t.create .unknown name file line

/-- **A symbol is declared.**  A name declared before under the same kind keeps its symbol; an
unknown symbol is promoted; otherwise a new symbol is made.  To declare a name as unknown is to use
it. -/
def declare (t : SymbolTable) (kind : SymbolKind) (name : Text) (file line : Nat) : Outcome :=
  match t.find? name kind with
  | some s => { table := t, id := s.id }
  | none =>
    if kind = .unknown then
      let r := t.resolve name file line
      { table := r.1, id := r.2 }
    else
      match t.find? name .unknown with
      | some s => { table := t.promote s.id kind file line, id := s.id }
      | none =>
        let r := t.create kind name file line
        { table := r.1, id := r.2, conflict := t.conflict? kind name }

/-- Names are used as types, one after the other. -/
def resolveAll (t : SymbolTable) (names : List Text) (file line : Nat) : SymbolTable :=
  names.foldl (fun t name => (t.resolve name file line).1) t

/-- A type with the numbers of the symbols that it mentions. -/
def sign (t : SymbolTable) (sketch : Sketch) : Signature :=
  sketch.mapRefs fun token => ⟨token, t.idOf token⟩

/-! ### Edges -/

/-- An edge is added to the symbol with a number, if there is one and it lacks the edge.  The second
result says whether it was added. -/
def addReference (t : SymbolTable) (id : Nat) (edge : Edge) : SymbolTable × Bool :=
  match t.get? id with
  | some s =>
    if s.references.contains edge then (t, false) else (t.modify id (·.addReference edge), true)
  | none => (t, false)

/-- An edge is added to each of the given symbols.  The second result counts the added ones. -/
def addReferences (t : SymbolTable) (edge : Edge) : List Nat → SymbolTable × Nat
  | [] => (t, 0)
  | id :: ids =>
    let r := t.addReference id edge
    let rest := addReferences r.1 edge ids
    (rest.1, (if r.2 then 1 else 0) + rest.2)

/-- **A mention is recorded**: an edge on every symbol that a type mentions.  The second result
counts the new ones. -/
def track (t : SymbolTable) (kind : EdgeKind) (referencer : Nat) (signature : Signature) :
    SymbolTable × Nat :=
  t.addReferences ⟨referencer, kind⟩ (signature.refs.map (·.id)).eraseDups

end SymbolTable

end LuaAtlas
