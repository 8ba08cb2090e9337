import LuaAtlas.Catalog.Basic

/-!
# Lineage

Classes name their parents, so they form a forest, apart from cycles: nothing keeps two classes from
naming each other.  A parent that is no class stands at the top of its tree, and the classes of a
cycle hang below the first of them.  `Lineage.forest` gives the trees, `Tree.flatten` lists them
from the top down, `Tree.distinct` cuts what was listed before, and `Lineage.ancestors` goes up from
one class.

A tree is unfolded along a path that never meets the same number twice, so the numbers that were not
met yet become fewer with each step, and unfolding ends on any parents.
-/

namespace LuaAtlas

/-- A symbol with the trees of its children. -/
inductive Tree where
  | node (symbol : Symbol) (children : List Tree)

namespace Tree

/-- The symbol at the top of a tree. -/
def symbol : Tree → Symbol
  | node symbol _ => symbol

/-- The trees below the top. -/
def children : Tree → List Tree
  | node _ children => children

/-- What listing has come to: the symbols listed so far with their depth, latest first. -/
abbrev Listing := List (Symbol × Nat)

/-- Whether a number was listed. -/
def Listing.holds (listing : Listing) (id : Nat) : Bool := listing.any (·.1.id == id)

mutual

/-- A tree is listed at a depth, unless its top was listed before. -/
def list (depth : Nat) (listing : Listing) : Tree → Listing
  | node symbol children =>
    if listing.holds symbol.id then listing
    else listAll (depth + 1) ((symbol, depth) :: listing) children

/-- Trees are listed one after the other. -/
def listAll (depth : Nat) (listing : Listing) : List Tree → Listing
  | [] => listing
  | tree :: trees => listAll depth (list depth listing tree) trees

end

/-- **The symbols of trees from the top down**, each with its depth and each once. -/
def flatten (trees : List Tree) : List (Symbol × Nat) := (listAll 0 [] trees).reverse

/-! ### Every symbol once -/

mutual

/-- A tree without the symbols in `met`, and what was met after it.  A tree whose top was met is
left out as a whole. -/
def once (met : List Nat) : Tree → Option Tree × List Nat
  | node symbol children =>
    if met.contains symbol.id then (none, met)
    else
      let below := onceAll (symbol.id :: met) children
      (some (node symbol below.1), below.2)

/-- Trees without the symbols in `met`, and what was met after them. -/
def onceAll (met : List Nat) : List Tree → List Tree × List Nat
  | [] => ([], met)
  | tree :: trees =>
    let first := once met tree
    let rest := onceAll first.2 trees
    (first.1.toList ++ rest.1, rest.2)

end

/-- **Trees in which every symbol stands once**, where it is met first from the top down. -/
def distinct (trees : List Tree) : List Tree := (onceAll [] trees).1

end Tree

namespace Lineage

/-- The parent that a class names. -/
def parentOf? (c : Catalog) (id : Nat) : Option Nat :=
  (c.get? id).bind fun s => if s.kind = .classKind then s.parent else none

/-- The classes whose parent is the symbol with a number, by increasing number. -/
def childrenOf (c : Catalog) (id : Nat) : List Symbol := c.classes.filter (·.parent == some id)

/-- The symbol that a class hangs below, if its parent is in the catalogue. -/
def knownParent? (c : Catalog) (s : Symbol) : Option Symbol := s.parent.bind c.get?

/-- The tree below a symbol.  Only the numbers in `unmet` are followed further. -/
def unfold (c : Catalog) (unmet : List Nat) (s : Symbol) : Tree :=
  if s.id ∈ unmet then
    .node s ((childrenOf c s.id).map fun child => unfold c (unmet.erase s.id) child)
  else .node s []
termination_by unmet.length
decreasing_by
  rename_i h
  have := List.length_erase_of_mem h
  have := List.length_pos_of_mem h
  omega

/-- The numbers of all symbols. -/
def ids (c : Catalog) : List Nat := c.symbols.map (·.id)

/-- The tree below a symbol. -/
def treeOf (c : Catalog) (s : Symbol) : Tree := unfold c (ids c) s

/-- The top that a class gives to the forest: itself without a parent in the catalogue, and its
parent if that is no class. -/
def topFor? (c : Catalog) (s : Symbol) : Option Symbol :=
  match knownParent? c s with
  | none => some s
  | some parent => if parent.kind = .classKind then none else some parent

/-- Symbols with the same number are kept only once. -/
def distinct : List Symbol → List Symbol
  | [] => []
  | s :: rest => s :: (distinct rest).filter (·.id != s.id)

/-- The tops of the forest, in the order of the classes that give them. -/
def tops (c : Catalog) : List Symbol := distinct (c.classes.filterMap (topFor? c))

/-- Whether a symbol is in the forest: a class, or the parent of one. -/
def isNode (c : Catalog) (s : Symbol) : Bool :=
  s.kind == .classKind || c.classes.any fun child => child.parent == some s.id

/-- The trees with further ones for the classes that none of them reaches.  Such classes lie on a
cycle or below one. -/
def addUnreached (c : Catalog) (trees : List Tree) (reached : List Nat) :
    List Symbol → List Tree
  | [] => trees
  | s :: rest =>
    if reached.contains s.id then addUnreached c trees reached rest
    else
      let tree := treeOf c s
      addUnreached c (trees ++ [tree])
        (reached ++ (Tree.flatten [tree]).map (·.1.id)) rest

/-- **The trees of all classes.** -/
def forest (c : Catalog) : List Tree :=
  let trees := (tops c).map (treeOf c)
  addUnreached c trees ((Tree.flatten trees).map (·.1.id)) c.classes

/-- The tree below the symbol with a number, if it is in the forest. -/
def treeAt (c : Catalog) (id : Nat) : List Tree :=
  match c.get? id with
  | some s => if isNode c s then [treeOf c s] else []
  | none => []

/-- The chain of parents from a number upwards, through the numbers in `unmet`. -/
def climb (c : Catalog) (unmet : List Nat) (id : Nat) : List Symbol :=
  match parentOf? c id with
  | none => []
  | some parent =>
    if parent ∈ unmet then
      match c.get? parent with
      | some s => s :: climb c (unmet.erase parent) parent
      | none => []
    else []
termination_by unmet.length
decreasing_by
  rename_i h
  have := List.length_erase_of_mem h
  have := List.length_pos_of_mem h
  omega

/-- **The parents of a class, nearest first.**  The chain ends before it would meet a symbol
again. -/
def ancestors (c : Catalog) (id : Nat) : List Symbol := climb c ((ids c).erase id) id

end Lineage

end LuaAtlas
