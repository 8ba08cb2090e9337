import LuaAtlas.Answer.Build
import LuaAtlas.Answer.Outline
import LuaAtlas.Answer.Search
import LuaAtlas.Service.Tool

/-!
# Calls

A call names a tool and gives it arguments as JSON.  `Service.call` answers it; a failure becomes an
answer too, so every call has one, and then the shelf stays as it was.
-/

namespace LuaAtlas.Service

/-! ### Arguments -/

/-- An argument that has to be given. -/
def required (key : String) (arguments : Json) : Except Failure Json :=
  match arguments.field? key with
  | some value => .ok value
  | none => .error (.missingArgument key)

/-- A name among the arguments, the usual one if it is not given. -/
def nameArgument (key : String) (arguments : Json) : Text :=
  ((arguments.field? key).map Json.display).getD Shelf.defaultName

/-- Whether an argument is given and counts as true. -/
def flagArgument (key : String) (arguments : Json) : Bool :=
  ((arguments.field? key).map Json.isTruthy).getD false

/-- A text that may be left out; a value that does not count as true leaves it out. -/
def textArgument (key : String) (arguments : Json) : Text :=
  match arguments.field? key with
  | some value => if value.isTruthy then value.display else []
  | none => []

/-- The greatest number of results: 20 if it is not given, none if it is null. -/
def limitArgument (arguments : Json) : Except Failure (Option Int) :=
  match arguments.field? "max_results" with
  | none => .ok (some 20)
  | some .null => .ok none
  | some value => value.toInteger.map some

/-- The paths to build from, the usual ones if none are given. -/
def pathsArgument (s : Surroundings) (arguments : Json) : List Text :=
  match arguments.field? "paths" with
  | some value =>
    if value.isTruthy then value.elements.map Json.display else s.defaultPaths
  | none => s.defaultPaths

/-- The integers in a list of values. -/
def integers : List Json → Except Failure (List Int)
  | [] => .ok []
  | value :: values => do
    let n ← value.toInteger
    return n :: (← integers values)

/-- A search among the arguments. -/
def searchArgument (arguments : Json) : Except Failure Answer.SearchRequest := do
  let query ← required "query" arguments
  return { query := query.display
           kind := textArgument "kind" arguments
           regex := flagArgument "regex" arguments
           members := flagArgument "include_members" arguments
           limit := ← limitArgument arguments }

/-! ### Answers -/

/-- An answer that leaves the shelf as it is. -/
def keep (shelf : Shelf) (answer : Except Failure Json) : Except Failure (Shelf × Json) :=
  answer.map (shelf, ·)

/-- **The answer of a tool**, and the shelf after it.  Arguments are looked at before the shelf. -/
def run (s : Surroundings) (shelf : Shelf) (arguments : Json) (tool : Tool) :
    Except Failure (Shelf × Json) :=
  let name := nameArgument "database" arguments
  match tool with
  | .buildDatabase =>
    Answer.build s shelf (pathsArgument s arguments) (nameArgument "name" arguments)
  | .listDatabases => keep shelf (.ok (Answer.volumes shelf))
  | .searchSymbols => keep shelf do
    let request ← searchArgument arguments
    Answer.onVolume shelf name fun v => Answer.search v request
  | .getSymbol => keep shelf do
    let id ← (← required "symbol_id" arguments).toInteger
    Answer.onVolume shelf name fun v => .ok (Answer.symbol v (.number id))
  | .getSymbols => keep shelf do
    let ids ← integers (← required "symbol_ids" arguments).elements
    Answer.onVolume shelf name fun v => .ok (Answer.symbols v (ids.map .number))
  | .getFileOutline => keep shelf do
    let file ← required "file" arguments
    Answer.onVolume shelf name fun v => Answer.outline v (.ofJson file)
  | .getClassTree =>
    let asked := (arguments.field? "root").getD .null
    keep shelf (Answer.onVolume shelf name fun v =>
      .ok (Answer.classTree v (textArgument "root" arguments) asked))
  | .listUnresolved =>
    keep shelf (Answer.onVolume shelf name fun v => .ok (Answer.unresolved v))
  | .getReferences => keep shelf do
    let symbol ← required "symbol" arguments
    Answer.onVolume shelf name fun v => .ok (Answer.references v (.ofJson symbol))

/-- **A call of a tool by its name**: the shelf after it, and the answer. -/
def call (s : Surroundings) (shelf : Shelf) (name : String) (arguments : Json) : Shelf × Json :=
  match Tool.ofName? name with
  | none => (shelf, Answer.error "Unknown tool: " name.toList)
  | some tool =>
    match run s shelf arguments tool with
    | .ok answer => answer
    | .error failure => (shelf, Answer.error failure.message [])

end LuaAtlas.Service
