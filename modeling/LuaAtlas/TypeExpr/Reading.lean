import LuaAtlas.Issue
import LuaAtlas.TypeExpr.Form
import LuaAtlas.TypeExpr.Node

/-!
# What the text of a type says

`read` turns a text into a `Reading`: the type as a tree, the names that have to be resolved in the
order in which they are met, and the issues.  Nothing that was declared elsewhere enters, so a text
reads the same everywhere.  A draft reads a type while it resolves the names (`Draft.readType`), and
what it reads is told by the reading of the text (`Draft.readType_eq_read`).  `read_eq` is the
equation to reason with: a type is its outermost form, combined from the readings of its pieces.
-/

namespace LuaAtlas.TypeExpr

/-- What reading a type gives. -/
structure Reading where
  sketch : Sketch
  /-- The symbols to resolve, in the order in which they are met; a symbol may be met again. -/
  mentions : List Text := []
  issues : List Issue := []

/-- The symbols to resolve in several readings. -/
def Reading.allMentions (readings : List Reading) : List Text := readings.flatMap (·.mentions)

/-- The issues of several readings. -/
def Reading.allIssues (readings : List Reading) : List Issue := readings.flatMap (·.issues)

/-- A name on its own, under the text `raw`: a primitive type or a symbol to resolve. -/
def readName (v : Vocabulary) (raw name : Text) : Reading :=
  if v.isPrimitive name then { sketch := .leaf raw .primitive name }
  else { sketch := ⟨raw, .reference, name, [], [name], false⟩, mentions := [name] }

/-- The kind of a generic type; a name that is no container has the kind that it has on its own. -/
def headKind (v : Vocabulary) (name : Text) : Head → TypeKind
  | .array => .array
  | .map => .map
  | .set => .set
  | .named => (readName v name name).sketch.kind

/-- A union: an optional alternative, or one that is the nil type, makes it optional, and gives up
its own wrapper. -/
def unionSketch (v : Vocabulary) (raw : Text) (alternatives : List Sketch) : Sketch :=
  let stripped := alternatives.map (·.stripOptional)
  { raw, kind := .union, name := "union".toList, parts := stripped,
    refs := Sketch.mergedRefs stripped,
    optional := alternatives.any fun a => a.optional || a.name == v.nilName }

/-- A generic type: the name, if it is a symbol, is met after its arguments and mentioned before
them. -/
def genericReading (v : Vocabulary) (raw : Text) (head : Head) (name : Text)
    (arguments : List Reading) : Reading :=
  let own := match head with
    | .named => readName v name name
    | _ => { sketch := .leaf name (headKind v name head) name }
  let parts := arguments.map (·.sketch)
  { sketch :=
      { raw, kind := headKind v name head, name, parts,
        refs := Sketch.mergedRefs (own.sketch :: parts), optional := false },
    mentions := Reading.allMentions arguments ++ own.mentions,
    issues := Reading.allIssues arguments }

/-- **A reading from the readings of the pieces.** -/
def combine (v : Vocabulary) (t : Text) : Form Reading → Reading
  | .empty => { sketch := .primitive "any".toList, issues := [.emptyType] }
  | .enclosed inner => { inner with sketch := inner.sketch.withRaw t }
  | .function mentioned =>
    { sketch :=
        { raw := t, kind := .function, name := "function".toList, parts := [],
          refs := Sketch.mergedRefs (mentioned.map (·.sketch)), optional := false },
      mentions := Reading.allMentions mentioned,
      issues := Reading.allIssues mentioned }
  | .unclosed =>
    { sketch := .leaf t .function "function".toList, issues := [.unclosedFunction t] }
  | .union alternatives =>
    { sketch := unionSketch v t (alternatives.map (·.sketch)),
      mentions := Reading.allMentions alternatives,
      issues := Reading.allIssues alternatives }
  | .optional inner => { inner with sketch := inner.sketch.optionalOf.withRaw t }
  | .array inner =>
    { inner with sketch := ⟨t, .array, "array".toList, [inner.sketch], inner.sketch.refs, false⟩ }
  | .generic head name arguments => genericReading v t head name arguments
  | .malformed .named name => { readName v t name with issues := [.malformedGeneric t] }
  | .malformed head name =>
    { sketch := .leaf t (headKind v name head) name, issues := [.malformedGeneric t] }
  | .literal => { sketch := .primitive t }
  | .dotted => readName v t t
  | .unrecognized => { sketch := .primitive t, issues := [.unrecognizedType t] }

/-- **Reading a trimmed text as a type.** -/
def read (v : Vocabulary) (t : Text) : Reading :=
  combine v t ((form v t).mapPieces fun p _ => read v p)
termination_by t.length
decreasing_by rename_i h; exact length_lt_of_mem_pieces h

/-- A type is its outermost form, combined from the readings of its pieces. -/
theorem read_eq (v : Vocabulary) (t : Text) :
    read v t = combine v t ((form v t).map (read v)) := by
  rw [read, Form.mapPieces_eq_map]

end LuaAtlas.TypeExpr
