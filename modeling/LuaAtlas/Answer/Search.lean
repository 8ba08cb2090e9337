import LuaAtlas.Answer.Symbols
import LuaAtlas.Catalog.Search

/-!
# Answers to searches

The symbols that a search finds are ranked and cut to a greatest number; members, if they are
wanted, stay in the order of their names.
-/

namespace LuaAtlas.Answer

/-- A search as it is asked for. -/
structure SearchRequest where
  query : Text
  /-- The name of the wanted kind of symbols; the empty name wants every declared kind. -/
  kind : Text := []
  regex : Bool := false
  members : Bool := false
  /-- How many results are wanted of each sort; a negative number leaves out the last ones, and
  without one all are wanted. -/
  limit : Option Int := some 20

namespace SearchRequest

/-- The kinds that are wanted, unless the kind is unknown. -/
def kinds? (r : SearchRequest) : Option (Option (List SymbolKind)) :=
  if r.kind.isEmpty then some none
  else (SymbolKind.ofLabel? (Text.str r.kind)).map fun k => some [k]

/-- What the catalogue is searched for. -/
def criteria (r : SearchRequest) (kinds : Option (List SymbolKind)) : Criteria :=
  { query := r.query, kinds, regex := r.regex, members := r.members }

end SearchRequest

/-- A symbol that was found. -/
def hit (v : Volume) (q : Criteria) (s : Symbol) : Json :=
  .obj [("id", .nat s.id), ("kind", .str s.kind.label), ("name", .text s.name),
    ("file", fileName v s.file), ("line", .nat s.firstLine),
    ("summary", .text (Summary.ofSymbol s)), ("score", .nat (Ranking.score q s.name))]

/-- A member that was found. -/
def memberHit (m : Member) : Json :=
  .obj [("id", .nat m.id), ("parent", .nat m.parent), ("name", .text m.name),
    ("type", .text m.rawType)]

/-- A method that was found. -/
def methodHit (m : Method) : Json :=
  .obj [("id", .nat m.id), ("parent", .nat m.parent), ("name", .text m.name),
    ("summary", .text (Summary.ofMethod m))]

/-- The members that were found, if they are wanted. -/
def memberHits (r : SearchRequest) (found : Found) : List (String × Json) :=
  if r.members then
    [("properties", .arr ((Slice.limited r.limit found.properties).map memberHit)),
      ("methods", .arr ((Slice.limited r.limit found.methods).map methodHit)),
      ("parameters", .arr ((Slice.limited r.limit found.parameters).map memberHit))]
  else []

/-- The symbols that a search answers with: the best ones up to the limit. -/
def best (r : SearchRequest) (q : Criteria) (found : Found) : List Symbol :=
  Slice.limited r.limit (Ranking.rank q found.symbols)

/-- The answer to a search that found something, or nothing. -/
def results (v : Volume) (r : SearchRequest) (q : Criteria) (found : Found) : Json :=
  let hits := best r q found
  .obj ([("database", .text v.name), ("query", .text r.query),
    ("result_count", .nat hits.length), ("results", .arr (hits.map (hit v q)))] ++
    memberHits r found)

/-- **The answer to a search.**  A query that is no pattern is told in the answer, apart from one
whose repetition does not fit in a word. -/
def search (v : Volume) (r : SearchRequest) : Except Failure Json :=
  match r.kinds? with
  | none => .ok (error "Unknown symbol kind: " r.kind)
  | some kinds =>
    let q := r.criteria kinds
    match v.catalog.search q with
    | .ok found => .ok (results v r q found)
    | .error failure =>
      match failure with
      | .invalidPattern _ ⟨.repetitionTooLarge, _⟩ => .error failure
      | _ => .ok (error failure.message [])

end LuaAtlas.Answer
