import LuaAtlas.Draft
import LuaAtlas.Text.Slice

/-!
# Catalogues

A `Catalog` is the finished account of a list of files: every symbol that they declare or mention,
the members in the order of their making, the lines and the diagnostics.  `Catalog.ofTexts` builds
one; the other operations look things up by number.
-/

namespace LuaAtlas

/-- The symbols, members, lines and diagnostics of a list of files.  Symbols stand by increasing
number. -/
structure Catalog where
  symbols : List Symbol := []
  properties : List Member := []
  methods : List Method := []
  parameters : List Member := []
  /-- The lines of each file. -/
  files : List (List Text) := []
  diagnostics : List Diagnostic := []

/-- Anything that has a number. -/
inductive Item where
  | symbol (symbol : Symbol)
  | method (method : Method)
  | member (member : Member)

namespace Item

/-- The number of an item. -/
def id : Item → Nat
  | symbol s => s.id
  | method m => m.id
  | member m => m.id

/-- The name of an item. -/
def name : Item → Text
  | symbol s => s.name
  | method m => m.name
  | member m => m.name

end Item

/-- How many things of each sort a catalogue holds. -/
structure Stats where
  classes : Nat
  enums : Nat
  aliases : Nat
  functions : Nat
  unresolved : Nat
  properties : Nat
  methods : Nat
  parameters : Nat
  files : Nat
  diagnostics : Nat
  deriving Repr, DecidableEq

namespace Catalog

/-! ### Building -/

/-- The catalogue that a draft amounts to. -/
def ofDraft (d : Draft) (files : List (List Text)) : Catalog :=
  { symbols := d.table.symbols, properties := d.properties, methods := d.methods,
    parameters := d.parameters, files, diagnostics := d.diagnostics }

/-- All declarations of a list of files are entered. -/
def draftOf (v : Vocabulary) (files : List (List Text)) : Draft := Draft.enterFiles v 0 {} files

/-- **The catalogue of a list of texts**, each the content of a file. -/
def ofTexts (v : Vocabulary) (texts : List Text) : Catalog :=
  let files := texts.map Text.lines
  ofDraft (draftOf v files) files

/-! ### Symbols by kind -/

/-- The symbols of a kind. -/
def ofKind (c : Catalog) (kind : SymbolKind) : List Symbol := c.symbols.filter (·.kind == kind)

/-- The classes. -/
def classes (c : Catalog) : List Symbol := c.ofKind .classKind

/-- The enumerations. -/
def enums (c : Catalog) : List Symbol := c.ofKind .enumKind

/-- The aliases. -/
def aliases (c : Catalog) : List Symbol := c.ofKind .aliasKind

/-- The global functions. -/
def functions (c : Catalog) : List Symbol := c.ofKind .functionKind

/-- The symbols that are mentioned and not declared. -/
def unresolved (c : Catalog) : List Symbol := c.ofKind .unknown

/-- The declared symbols: classes, enumerations, aliases, then functions. -/
def declared (c : Catalog) : List Symbol := c.classes ++ c.enums ++ c.aliases ++ c.functions

/-- How many things of each sort there are. -/
def stats (c : Catalog) : Stats :=
  { classes := c.classes.length, enums := c.enums.length, aliases := c.aliases.length,
    functions := c.functions.length, unresolved := c.unresolved.length,
    properties := c.properties.length, methods := c.methods.length,
    parameters := c.parameters.length, files := c.files.length,
    diagnostics := c.diagnostics.length }

/-! ### Looking up by number -/

/-- The symbol with a number. -/
def get? (c : Catalog) (id : Nat) : Option Symbol := c.symbols.find? (·.id == id)

/-- The method with a number. -/
def method? (c : Catalog) (id : Nat) : Option Method := c.methods.find? (·.id == id)

/-- The property with a number. -/
def property? (c : Catalog) (id : Nat) : Option Member := c.properties.find? (·.id == id)

/-- The parameter with a number. -/
def parameter? (c : Catalog) (id : Nat) : Option Member := c.parameters.find? (·.id == id)

/-- The values of all enumerations. -/
def enumValues (c : Catalog) : List Member := c.enums.flatMap (·.values)

/-- **Whatever has a number**: a symbol, a method, a property, a parameter or a value of an
enumeration. -/
def item? (c : Catalog) (id : Nat) : Option Item :=
  ((c.get? id).map Item.symbol).or <|
  ((c.method? id).map Item.method).or <|
  ((c.property? id).map Item.member).or <|
  ((c.parameter? id).map Item.member).or <|
  (c.enumValues.find? (·.id == id)).map Item.member

/-- The symbol with a number that may be any integer. -/
def getAt? (c : Catalog) (id : Int) : Option Symbol := id.toNat?.bind c.get?

/-- The item with a number that may be any integer. -/
def itemAt? (c : Catalog) (id : Int) : Option Item := id.toNat?.bind c.item?

/-- What a symbol holds: the properties and methods of a class, the values of an enumeration, the
parameters of a function. -/
def membersOfSymbol (s : Symbol) : List Item :=
  match s.body with
  | .classBody properties methods => properties.map .member ++ methods.map .method
  | .enumBody values => values.map .member
  | .functionBody (some routine) => routine.params.map .member
  | _ => []

/-- What the item with a number holds. -/
def membersOf (c : Catalog) (id : Nat) : List Item :=
  match c.method? id with
  | some m => m.routine.params.map .member
  | none => ((c.get? id).map membersOfSymbol).getD []

/-! ### References -/

/-- The edges on the symbol with a number. -/
def referencesTo (c : Catalog) (id : Nat) : List Edge := ((c.get? id).map (·.references)).getD []

/-- What stands behind an edge. -/
def referencer? (c : Catalog) (edge : Edge) : Option Item :=
  match edge.kind with
  | .property => (c.property? edge.referencer).map .member
  | .parameter =>
    ((c.method? edge.referencer).map Item.method).or ((c.get? edge.referencer).map Item.symbol)
  | .method => (c.method? edge.referencer).map .method
  | .globalFunction => (c.get? edge.referencer).map .symbol

/-- The edges on a symbol with what stands behind each. -/
def referencers (c : Catalog) (id : Nat) : List (Edge × Item) :=
  (c.referencesTo id).filterMap fun edge => (c.referencer? edge).map (edge, ·)

/-! ### Lines -/

/-- The lines of a file from the number `first` to the number `last`, both included.  A negative
`last` counts from the end of the file. -/
def linesOf (c : Catalog) (file first last : Int) : List Text :=
  match file.toNat?.bind (c.files[·]?) with
  | none => []
  | some lines => (Slice.before last lines).drop (first - 1).toNat

end Catalog

end LuaAtlas
