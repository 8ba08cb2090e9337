import LuaAtlas.Catalog.Index
import LuaAtlas.Failure
import LuaAtlas.Pattern.Matching
import LuaAtlas.Pattern.Reading

/-!
# Searching

A search looks for names that hold a text, upper and lower case being the same, or that a pattern
matches.  `Catalog.search` gives what it finds sorted by name; `Ranking` puts exact matches and
beginnings first.
-/

namespace LuaAtlas

/-- What is searched for. -/
structure Criteria where
  query : Text
  /-- The kinds of symbols that are wanted; without them all declared kinds are. -/
  kinds : Option (List SymbolKind) := none
  /-- Whether the query is a pattern. -/
  regex : Bool := false
  /-- Whether members are wanted too. -/
  members : Bool := false

/-- What a search finds, each list sorted by name. -/
structure Found where
  symbols : List Symbol := []
  properties : List Member := []
  methods : List Method := []
  parameters : List Member := []

namespace Criteria

/-- The kinds of symbols that are wanted. -/
def wanted (q : Criteria) : List SymbolKind := q.kinds.getD SymbolKind.declared

/-- **Which names match**, unless the query is no pattern. -/
def matcher (q : Criteria) : Except Failure (Text → Bool) :=
  if q.regex then
    match Pattern.read q.query with
    | .ok pattern => .ok pattern.occursIn
    | .error fault => .error (.invalidPattern q.query fault)
  else .ok fun name => Text.containsText (Text.lower q.query) (Text.lower name)

end Criteria

/-- Things sorted by their name in lower case and then by their number. -/
def sortByName {α : Type} (name : α → Text) (id : α → Nat) (items : List α) : List α :=
  items.mergeSort fun a b =>
    NameEntry.le ⟨Text.lower (name a), id a⟩ ⟨Text.lower (name b), id b⟩

namespace Catalog

/-- What is found when `holds` says which names match. -/
def collect (c : Catalog) (q : Criteria) (holds : Text → Bool) : Found :=
  let symbols :=
    sortByName Symbol.name Symbol.id
      (c.symbols.filter fun s => q.wanted.contains s.kind && holds s.name)
  if q.members then
    { symbols
      properties := sortByName Member.name Member.id (c.properties.filter fun p => holds p.name)
      methods := sortByName Method.name Method.id (c.methods.filter fun m => holds m.name)
      parameters := sortByName Member.name Member.id (c.parameters.filter fun p => holds p.name) }
  else { symbols }

/-- **A search.**  The empty query finds nothing. -/
def search (c : Catalog) (q : Criteria) : Except Failure Found :=
  if q.query.isEmpty then .ok {} else q.matcher.map (c.collect q)

end Catalog

/-! ### Ranking -/

namespace Ranking

/-- How well a name fits a query: exactly, as its beginning, or somewhere inside.  Patterns do not
tell matches apart. -/
def score (q : Criteria) (name : Text) : Nat :=
  let query := Text.lower q.query
  let lower := Text.lower name
  if q.regex then 1
  else if query == lower then 20
  else if Text.beginsWith query lower then 15
  else 10

/-- The order of ranked symbols: by falling score, then by name, then by number. -/
def le (q : Criteria) (a b : Symbol) : Bool :=
  let scoreA := score q a.name
  let scoreB := score q b.name
  decide (scoreB < scoreA) || (scoreA == scoreB &&
    NameEntry.le ⟨Text.lower a.name, a.id⟩ ⟨Text.lower b.name, b.id⟩)

/-- **Symbols with the best ones first.** -/
def rank (q : Criteria) (symbols : List Symbol) : List Symbol := symbols.mergeSort (le q)

end Ranking

end LuaAtlas
