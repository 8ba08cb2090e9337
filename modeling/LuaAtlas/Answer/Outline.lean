import LuaAtlas.Answer.Symbols
import LuaAtlas.Lineage

/-!
# Outlines

Two views of a catalogue as a whole: the symbols that a file declares, line by line, and the tree of
classes.
-/

namespace LuaAtlas.Answer

/-! ### Files -/

/-- The index of a file, if there is such a file. -/
def fileAt? (sources : List Text) (index : Int) : Option Nat :=
  index.toNat?.filter (· < sources.length)

/-- Whether a path ends in the given file, behind a slash or backslash. -/
def endsInFile (file source : Text) : Bool :=
  Text.endsWith ('/' :: file) source || Text.endsWith ('\\' :: file) source

/-- The first file with a path, else the first whose path ends in it. -/
def fileWithPath? (sources : List Text) (file : Text) : Option Nat :=
  (sources.findIdx? (· == file)).or (sources.findIdx? (endsInFile file))

/-- Whether a text is made of digits of any sort. -/
def isNumber (t : Text) : Bool := !t.isEmpty && t.all Text.isDigit

/-- **The file that a selector points at**: by its index, also when that is written as a text, or by
its path.  Digits that do not make a number are a failure. -/
def file? (sources : List Text) : Selector → Except Failure (Option Nat)
  | .text t =>
    if isNumber t then
      match Text.toInt? t with
      | some n => .ok (fileAt? sources n)
      | none => .error (.invalidInteger t)
    else .ok (fileWithPath? sources t)
  | .number n => .ok (fileAt? sources n)
  | .flag value => .ok (fileAt? sources (if value then 1 else 0))

/-- A property in an outline. -/
def outlineProperty (p : Member) : Json :=
  .obj [("id", .nat p.id), ("kind", .str p.kind.label), ("name", .text p.name),
    ("type", .text p.rawType), ("line", .nat p.line)]

/-- A method in an outline. -/
def outlineMethod (m : Method) : Json :=
  .obj [("id", .nat m.id), ("kind", .str "method"), ("name", .text m.name),
    ("summary", .text (Summary.ofMethod m)), ("line", .nat m.line)]

/-- A value of an enumeration in an outline. -/
def outlineValue (e : Member) : Json :=
  .obj [("id", .nat e.id), ("kind", .str e.kind.label), ("name", .text e.name),
    ("value", .ofOption .text e.value), ("line", .nat e.line)]

/-- A field for parts that stands only where there are any. -/
def childrenField (children : List Json) : List (String × Json) :=
  if children.isEmpty then [] else [("children", .arr children)]

/-- A symbol in an outline, with what it holds. -/
def outlineSymbol (s : Symbol) : Json :=
  .obj ([("id", .nat s.id), ("kind", .str s.kind.label), ("name", .text s.name),
    ("summary", .text (Summary.ofSymbol s)), ("line", .nat s.firstLine),
    ("end_line", .nat s.lastLine)] ++
    childrenField (s.properties.map outlineProperty ++ s.methods.map outlineMethod ++
      s.values.map outlineValue))

/-- The order of an outline: by line, then by number. -/
def outlineLe (a b : Symbol) : Bool :=
  a.firstLine < b.firstLine || (a.firstLine == b.firstLine && a.id ≤ b.id)

/-- The symbols that a file declares, in the order of its lines. -/
def symbolsIn (c : Catalog) (file : Nat) : List Symbol :=
  (c.declared.filter (·.file == file)).mergeSort outlineLe

/-- **What a file declares.** -/
def outline (v : Volume) (selector : Selector) : Except Failure Json :=
  (file? v.sources selector).map fun
    | none => error "File not in database: " selector.display
    | some file =>
      .obj [("database", .text v.name), ("file", fileName v file), ("file_index", .nat file),
        ("symbols", .arr ((symbolsIn v.catalog file).map outlineSymbol))]

/-! ### Classes -/

mutual

/-- A class with the classes below it; `summaries` has the summaries of all of them. -/
def treeNode (v : Volume) (summaries : List (Nat × Text)) : Tree → Json
  | .node s children =>
    .obj ([("id", .nat s.id), ("name", .text s.name), ("kind", .str s.kind.label),
      ("file", fileName v s.file), ("line", .nat s.firstLine),
      ("summary", .text (Summary.under summaries s.id))] ++
      childrenField (treeNodes v summaries children))

/-- Classes with the classes below them. -/
def treeNodes (v : Volume) (summaries : List (Nat × Text)) : List Tree → List Json
  | [] => []
  | tree :: trees => treeNode v summaries tree :: treeNodes v summaries trees

end

/-- The trees that are asked for: all of them, or the one below a class, if there is such a one. -/
def trees? (c : Catalog) (root : Text) : Option (List Tree) :=
  if root.isEmpty then some (Lineage.forest c)
  else (c.find? root none).map fun s => Lineage.treeAt c s.id

/-- **The tree of classes.**  `root` names the class at its top, `asked` is the root as it was asked
for; every symbol stands in the answer once, with the summary that the list of the trees gives. -/
def classTree (v : Volume) (root : Text) (asked : Json) : Json :=
  match trees? v.catalog root with
  | none => error "Class not found: " root
  | some trees =>
    let summaries := Summary.table ((Tree.flatten trees).map (·.1))
    .obj [("database", .text v.name), ("root", asked),
      ("tree", .arr (treeNodes v summaries (Tree.distinct trees)))]

end LuaAtlas.Answer
