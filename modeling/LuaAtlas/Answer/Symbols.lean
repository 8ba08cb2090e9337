import LuaAtlas.Answer.Selector
import LuaAtlas.Catalog.Index
import LuaAtlas.Report
import LuaAtlas.Shelf
import LuaAtlas.Summary

/-!
# Answers about symbols

What is told about single symbols: their members and source lines, who mentions them, and which of
them were never declared.
-/

namespace LuaAtlas.Answer

/-- An answer that tells what is wrong. -/
def error (message : String) (subject : Text) : Json :=
  .obj [("error", .text (message.toList ++ subject))]

/-- The answer about the catalogue with a name, if there is one. -/
def onVolume (shelf : Shelf) (name : Text) (answer : Volume → Except Failure Json) :
    Except Failure Json :=
  match shelf.get? name with
  | some v => answer v
  | none => .ok (error "Database not built: " name)

/-- The file of something, by its name. -/
def fileName (v : Volume) (file : Nat) : Json := .text (v.sourceName file)

/-! ### Details -/

/-- The lines that declare a symbol. -/
def sourceText (v : Volume) (s : Symbol) : Text :=
  Text.join ['\n'] (v.catalog.linesOf s.file s.firstLine s.lastLine)

/-- **All about a symbol.** -/
def details (v : Volume) (s : Symbol) : Json :=
  .obj (Report.symbolFields s true ++
    [("source_file", fileName v s.file), ("summary", .text (Summary.ofSymbol s)),
      ("source", .text (sourceText v s))])

/-- The symbol with a number. -/
def symbol? (v : Volume) (id : Selector) : Option Symbol := id.number?.bind v.catalog.getAt?

/-- What is said about a number without a symbol. -/
def symbolNotFound (id : Selector) : Text := "Symbol not found: ".toList ++ id.display

/-- All about the symbol with a number. -/
def symbol (v : Volume) (id : Selector) : Json :=
  match symbol? v id with
  | some s => details v s
  | none => .obj [("error", .text (symbolNotFound id))]

/-- All about several symbols; the numbers without a symbol stand apart. -/
def symbols (v : Volume) (ids : List Selector) : Json :=
  .obj [("symbols", .arr ((ids.filterMap (symbol? v)).map (details v))),
    ("errors", .arr ((ids.filter fun id => (symbol? v id).isNone).map fun id =>
      .obj [("id", id.json), ("error", .text (symbolNotFound id))]))]

/-! ### Undeclared names -/

/-- The order of undeclared names: the most mentioned ones first, then by name. -/
def unresolvedLe (a b : Symbol) : Bool :=
  decide (b.references.length < a.references.length) ||
    (a.references.length == b.references.length && !decide (b.name < a.name))

/-- The undeclared names, the most mentioned ones first. -/
def rankedUnresolved (c : Catalog) : List Symbol := c.unresolved.mergeSort unresolvedLe

/-- Where an undeclared name was met first. -/
def firstSeen (v : Volume) (s : Symbol) : Text :=
  v.sourceName s.file ++ ':' :: Text.ofNat s.firstLine

/-- **The names that are mentioned and never declared.** -/
def unresolved (v : Volume) : Json :=
  let symbols := rankedUnresolved v.catalog
  .obj [("database", .text v.name), ("count", .nat symbols.length),
    ("unresolved", .arr (symbols.map fun s =>
      .obj [("id", .nat s.id), ("name", .text s.name), ("ref_count", .nat s.references.length),
        ("first_seen", .text (firstSeen v s))]))]

/-! ### References -/

/-- The symbol that a name means: a declared one, else an undeclared one. -/
def named? (c : Catalog) (name : Text) : Option Symbol :=
  (c.find? name none).or (c.find? name (some .unknown))

/-- The symbol that a selector points at, by number or by name. -/
def target? (v : Volume) : Selector → Option Symbol
  | .text name => named? v.catalog name
  | id => symbol? v id

/-- The name of what holds a method or member. -/
def ownerName? (c : Catalog) (parent : Nat) : Option Text :=
  ((c.get? parent).map (·.name)).or ((c.method? parent).map (·.name))

/-- Who holds an item and where the item stands. -/
def placeFields (v : Volume) : Item → List (String × Json)
  | .symbol s => [("file", fileName v s.file), ("line", .nat s.firstLine)]
  | .method m =>
    [("owner", .ofOption .text (ownerName? v.catalog m.parent)), ("file", fileName v m.file),
      ("line", .nat m.line)]
  | .member m =>
    [("owner", .ofOption .text (ownerName? v.catalog m.parent)), ("file", fileName v m.file),
      ("line", .nat m.line)]

/-- One mention of a symbol. -/
def reference (v : Volume) (edge : Edge) (item : Item) : Json :=
  .obj ([("kind", .str edge.kind.label), ("referencer_id", .nat edge.referencer),
    ("name", .text item.name)] ++ placeFields v item)

/-- **Who mentions a symbol.** -/
def references (v : Volume) (selector : Selector) : Json :=
  match target? v selector with
  | none => .obj [("error", .text (symbolNotFound selector))]
  | some s =>
    .obj [("database", .text v.name), ("id", .nat s.id), ("name", .text s.name),
      ("kind", .str s.kind.label), ("ref_count", .nat s.references.length),
      ("references", .arr ((v.catalog.referencers s.id).map fun r => reference v r.1 r.2))]

end LuaAtlas.Answer
