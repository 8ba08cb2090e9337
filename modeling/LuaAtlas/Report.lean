import LuaAtlas.Catalog.Basic
import LuaAtlas.Json.Basic

/-!
# Reports

How symbols, members, types and diagnostics are laid out as JSON.
-/

namespace LuaAtlas.Report

mutual

/-- A type: the names that it mentions stand as keys of an object, and parts only where there are
any. -/
def signature : Signature → Json
  | ⟨raw, kind, name, parts, refs, optional⟩ =>
    .obj ([("raw", .text raw), ("kind", .str kind.label), ("name", .text name),
      ("optional", .bool optional),
      ("refs", .obj (refs.map fun r => (Text.str r.token, .nat r.id)))] ++
      match parts with
      | [] => []
      | part :: rest => [("subtypes", .arr (signature part :: signatures rest))])

/-- Types in a list. -/
def signatures : List Signature → List Json
  | [] => []
  | s :: rest => signature s :: signatures rest

end

/-- A member; its value only where it has one. -/
def member (m : Member) : Json :=
  .obj ([("id", .nat m.id), ("kind", .str m.kind.label), ("parent", .nat m.parent),
    ("name", .text m.name), ("type", .text m.rawType), ("signature", signature m.signature),
    ("file", .nat m.file), ("line", .nat m.line)] ++
    (m.value.map fun value => ("value", .text value)).toList)

/-- A method. -/
def method (m : Method) : Json :=
  .obj [("id", .nat m.id), ("parent", .nat m.parent), ("name", .text m.name),
    ("signature", .text m.routine.declaration), ("description", .text m.routine.description),
    ("params", .arr (m.routine.params.map member)), ("returns", signature m.routine.returns),
    ("extra_returns", .arr (signatures m.routine.extraReturns)),
    ("file", .nat m.file), ("line", .nat m.line)]

/-- A diagnostic. -/
def diagnostic (d : Diagnostic) : Json :=
  .obj [("code", .str d.issue.code), ("message", .str d.issue.message), ("file", .nat d.file),
    ("line", .nat d.line)]

/-- What is reported of a symbol by its kind; `members` says whether its members are. -/
def bodyFields (s : Symbol) (members : Bool) : List (String × Json) :=
  match s.body with
  | .unknown => []
  | .classBody properties methods =>
    [("parent", .ofOption .nat s.parent), ("children", .arr (s.children.map .nat))] ++
      if members then
        [("properties", .arr (properties.map member)), ("methods", .arr (methods.map method))]
      else []
  | .enumBody values =>
    if members then
      [("values", .arr (values.map fun v =>
        .obj [("name", .text v.name), ("value", .ofOption .text v.value)]))]
    else []
  | .aliasBody options =>
    [("values", .texts (options.map (·.text)))] ++
      if members then [("signatures", .arr (signatures (options.map (·.signature))))] else []
  | .functionBody routine =>
    [("signature", .text ((routine.map (·.declaration)).getD [])),
      ("description", .text ((routine.map (·.description)).getD []))] ++
      if members then
        [("params", .arr (((routine.map (·.params)).getD []).map member)),
          ("returns", .ofOption (fun r => signature r.returns) routine),
          ("extra_returns", .arr (signatures ((routine.map (·.extraReturns)).getD [])))]
      else []

/-- The fields of a symbol. -/
def symbolFields (s : Symbol) (members : Bool) : List (String × Json) :=
  [("id", .nat s.id), ("name", .text s.name), ("kind", .str s.kind.label), ("file", .nat s.file),
    ("line_start", .nat s.firstLine), ("line_end", .nat s.lastLine),
    ("ref_count", .nat s.references.length)] ++ bodyFields s members

/-- **A symbol**, with its members or without them. -/
def symbol (s : Symbol) (members : Bool) : Json := .obj (symbolFields s members)

/-- An item with its members or without them. -/
def item (i : Item) (members : Bool) : Json :=
  match i with
  | .symbol s => symbol s members
  | .method m => method m
  | .member m => member m

/-- The counts of a catalogue. -/
def stats (s : Stats) : Json :=
  .obj [("classes", .nat s.classes), ("enums", .nat s.enums), ("aliases", .nat s.aliases),
    ("functions", .nat s.functions), ("unresolved", .nat s.unresolved),
    ("properties", .nat s.properties), ("methods", .nat s.methods),
    ("parameters", .nat s.parameters), ("files", .nat s.files),
    ("diagnostics", .nat s.diagnostics)]

end LuaAtlas.Report
