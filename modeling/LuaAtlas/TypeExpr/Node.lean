import LuaAtlas.Text.Basic

/-!
# Types as read

A type that was read is a tree.  Each node keeps its text, its kind, its name, its parts and the
names that it mentions anywhere inside, each once and in the order of first mention.  What a mention
is made of is a parameter: in a `Sketch` it is a name, in a `Signature` a name with the number of
the symbol it stands for.
-/

namespace LuaAtlas

/-- The kinds of types. -/
inductive TypeKind where
  | primitive
  | array
  | map
  | set
  | union
  | optional
  | function
  /-- A symbol, known or not. -/
  | reference
  deriving Repr, DecidableEq

/-- The name of a kind of types. -/
def TypeKind.label : TypeKind → String
  | primitive => "primitive"
  | array => "array"
  | map => "map"
  | set => "set"
  | union => "union"
  | optional => "optional"
  | function => "function"
  | reference => "symbol-reference"

/-- A type that was read, with mentions of the sort `ρ`. -/
structure TypeNode (ρ : Type) where
  /-- The text as written. -/
  raw : Text
  kind : TypeKind
  /-- The primitive, symbol or container; a fixed word for the other kinds. -/
  name : Text
  /-- The arguments of a container, the alternatives of a union, the type inside an optional one. -/
  parts : List (TypeNode ρ)
  /-- What is mentioned in the type or in any part of it. -/
  refs : List ρ
  /-- Whether the type admits the absence of a value. -/
  optional : Bool

/-- A type in which mentioned symbols are names. -/
abbrev Sketch := TypeNode Text

/-- A mention of a symbol: its name and its number. -/
structure Reference where
  token : Text
  id : Nat
  deriving Repr, DecidableEq

/-- A type in which mentioned symbols are known by number. -/
abbrev Signature := TypeNode Reference

namespace TypeNode

variable {ρ σ : Type}

mutual

/-- The same type with every mention replaced. -/
def mapRefs (f : ρ → σ) : TypeNode ρ → TypeNode σ
  | ⟨raw, kind, name, parts, refs, optional⟩ =>
    ⟨raw, kind, name, mapRefsList f parts, refs.map f, optional⟩

/-- The same types with every mention replaced. -/
def mapRefsList (f : ρ → σ) : List (TypeNode ρ) → List (TypeNode σ)
  | [] => []
  | node :: nodes => mapRefs f node :: mapRefsList f nodes

end

/-- Replacing mentions in a list is replacing them in each type of it. -/
theorem mapRefsList_eq_map (f : ρ → σ) (nodes : List (TypeNode ρ)) :
    mapRefsList f nodes = nodes.map (mapRefs f) := by
  induction nodes with
  | nil => rfl
  | cons node nodes ih => rw [mapRefsList, ih, List.map_cons]

/-- Whether a type is built from primitive types alone: it mentions no symbol. -/
def isPrimitive (node : TypeNode ρ) : Bool := node.refs.isEmpty

/-- A type without parts and mentions. -/
def leaf (raw : Text) (kind : TypeKind) (name : Text) : TypeNode ρ :=
  ⟨raw, kind, name, [], [], false⟩

/-- A type that mentions no symbol, under its own name. -/
def primitive (name : Text) : TypeNode ρ := leaf name .primitive name

/-- The same type under another text. -/
def withRaw (node : TypeNode ρ) (raw : Text) : TypeNode ρ := { node with raw }

/-- **The optional form of a type**; one that is optional already stays as it is. -/
def optionalOf (node : TypeNode ρ) : TypeNode ρ :=
  if node.optional then node
  else ⟨node.raw, .optional, node.name, [node], node.refs, true⟩

/-- The type inside an optional one, and any other type itself. -/
def stripOptional (node : TypeNode ρ) : TypeNode ρ :=
  match node.kind, node.parts with
  | .optional, inner :: _ => inner
  | _, _ => node

end TypeNode

/-- The names that types mention, each once, in the order of first mention. -/
def Sketch.mergedRefs (sketches : List Sketch) : List Text :=
  (sketches.flatMap (·.refs)).eraseDups

end LuaAtlas
