import LuaAtlas.Symbol.Table

/-!
# Catalogues under construction

A `Draft` is a catalogue under construction: the symbol table, the members made so far in the order
of their making, and the diagnostics.  Its steps resolve names, give numbers and record edges.
-/

namespace LuaAtlas

/-- A catalogue under construction. -/
structure Draft where
  table : SymbolTable := {}
  properties : List Member := []
  methods : List Method := []
  parameters : List Member := []
  diagnostics : List Diagnostic := []
  /-- How many edges were recorded. -/
  edgeCount : Nat := 0

namespace Draft

/-! ### Steps -/

/-- An issue is reported at a place. -/
def report (d : Draft) (issue : Issue) (file line : Nat) : Draft :=
  { d with diagnostics := d.diagnostics ++ [⟨issue, file, line⟩] }

/-- Issues are reported at one place. -/
def reportAll (d : Draft) (issues : List Issue) (file line : Nat) : Draft :=
  { d with diagnostics := d.diagnostics ++ issues.map (⟨·, file, line⟩) }

/-- The next free number is taken. -/
def fresh (d : Draft) : Draft × Nat :=
  let r := d.table.fresh
  ({ d with table := r.1 }, r.2)

/-- The symbol with a number is changed. -/
def modify (d : Draft) (id : Nat) (f : Symbol → Symbol) : Draft :=
  { d with table := d.table.modify id f }

/-- A name is used as a type. -/
def resolve (d : Draft) (name : Text) (file line : Nat) : Draft × Nat :=
  let r := d.table.resolve name file line
  ({ d with table := r.1 }, r.2)

/-- A symbol is declared; a conflict is reported where it arises. -/
def declare (d : Draft) (kind : SymbolKind) (name : Text) (file line : Nat) : Draft × Nat :=
  let r := d.table.declare kind name file line
  (({ d with table := r.table }).reportAll r.conflict.toList file line, r.id)

/-- The symbols that a type mentions get an edge. -/
def track (d : Draft) (kind : EdgeKind) (referencer : Nat) (signature : Signature) : Draft :=
  let r := d.table.track kind referencer signature
  { d with table := r.1, edgeCount := d.edgeCount + r.2 }

/-- As `track`, for several types. -/
def trackAll (d : Draft) (kind : EdgeKind) (referencer : Nat) (signatures : List Signature) :
    Draft :=
  signatures.foldl (fun d s => d.track kind referencer s) d

/-- The last line of a block is recorded, unless its symbol was declared elsewhere before. -/
def setLastLine (d : Draft) (id file line lastLine : Nat) : Draft :=
  d.modify id fun s => if s.isDeclaredAt file line then { s with lastLine } else s

end Draft

end LuaAtlas
