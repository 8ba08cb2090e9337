import LuaAtlas.Report
import LuaAtlas.Shelf
import LuaAtlas.Source.Reading

/-!
# Building and keeping catalogues

A build reads sources, makes their catalogue and puts it on the shelf.  A build that has nothing to
read leaves the shelf as it is.
-/

namespace LuaAtlas.Answer

/-- The greatest number of undeclared names and of diagnostics that a build tells. -/
def buildLimit : Nat := 50

/-- The answer to a build that failed. -/
def buildError (message : String) : List (String × Json) :=
  [("success", .bool false), ("error", .str message)]

/-- The note that there are more diagnostics than are told. -/
def buildNote (diagnostics : Nat) : List (String × Json) :=
  if buildLimit < diagnostics then
    [("note", .str s!"Showing first {buildLimit} of {diagnostics} diagnostics")]
  else []

/-- The warnings of a build, if there are any. -/
def buildWarnings (warnings : List Text) : List (String × Json) :=
  if warnings.isEmpty then [] else [("warnings", .texts warnings)]

/-- The answer to a build that was made. -/
def buildReport (v : Volume) (warnings : List Text) : Json :=
  let c := v.catalog
  .obj ([("success", .bool true), ("database", .text v.name), ("built_at", .text v.builtAt),
    ("files", .texts v.sources), ("stats", Report.stats c.stats),
    ("unresolved", .texts ((c.unresolved.take buildLimit).map (·.name))),
    ("diagnostics", .arr ((c.diagnostics.take buildLimit).map Report.diagnostic))] ++
    buildWarnings warnings ++ buildNote c.diagnostics.length)

/-- The catalogue of sources under a name. -/
def volumeOf (s : Surroundings) (name : Text) (sources : Sources) : Volume :=
  { name, builtAt := s.now, sources := sources.paths,
    catalog := Catalog.ofTexts .standard sources.contents }

/-- **A build** of the files at the given paths, kept under a name. -/
def build (s : Surroundings) (shelf : Shelf) (paths : List Text) (name : Text) :
    Except Failure (Shelf × Json) :=
  if paths.isEmpty then .ok (shelf, .obj (buildError "No declaration files given"))
  else
    (Sources.read s Sources.sizeLimit paths).map fun sources =>
      if sources.contents.isEmpty then
        (shelf, .obj (buildError "No declaration files could be read" ++
          [("warnings", .texts sources.warnings)]))
      else
        let v := volumeOf s name sources
        (shelf.put v, buildReport v sources.warnings)

/-- A catalogue on the shelf. -/
def volumeEntry (v : Volume) : Json :=
  .obj [("name", .text v.name), ("built_at", .text v.builtAt), ("sources", .texts v.sources),
    ("stats", Report.stats v.catalog.stats)]

/-- **The catalogues on the shelf**, in the order in which their names first came up. -/
def volumes (shelf : Shelf) : Json :=
  .obj [("count", .nat shelf.volumes.length), ("databases", .arr (shelf.volumes.map volumeEntry))]

end LuaAtlas.Answer
