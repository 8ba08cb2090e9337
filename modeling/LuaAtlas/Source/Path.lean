import LuaAtlas.Failure

/-!
# Paths

A path is a beginning of up to two slashes and a list of components.  Reading a path drops empty
components and single dots; two dots stay, since what they lead to depends on the files.  A first
component that starts with a tilde stands for a home directory.
-/

namespace LuaAtlas

/-- A path. -/
structure Path where
  /-- No slash for a relative path, one for an absolute one; exactly two slashes are kept. -/
  root : Text
  parts : List Text
  deriving Repr, DecidableEq

/-- Who lives where. -/
structure Homes where
  /-- The home directory of the present user. -/
  own : Text
  /-- The home directories of others, by name. -/
  others : List (Text × Text) := []

namespace Path

/-- The beginning of a path: three slashes or more are as good as one. -/
def rootOf (t : Text) : Text :=
  match (t.takeWhile (· == '/')).length with
  | 0 => []
  | 2 => ['/', '/']
  | _ => ['/']

/-- Whether a component leads anywhere. -/
def isStep (part : Text) : Bool := !part.isEmpty && part != ['.']

/-- **The path that a text spells.** -/
def ofText (t : Text) : Path := ⟨rootOf t, (t.splitOn '/').filter isStep⟩

/-- The text of a path; the path that leads nowhere is a dot. -/
def text (p : Path) : Text :=
  match p.root ++ Text.join ['/'] p.parts with
  | [] => ['.']
  | t => t

/-- The home directory that a component with a tilde stands for. -/
def homeFor? (homes : Homes) : Text → Option Text
  | [] => some homes.own
  | name => homes.others.lookup name

/-- A home directory without slashes behind it; nothing but slashes is the root. -/
def tidyHome (home : Text) : Text :=
  match Text.dropTrailing (· == '/') home with
  | [] => ['/']
  | t => t

/-- **The path with its home directory filled in.**  A tilde must stand for somebody's home. -/
def expandHome (homes : Homes) (p : Path) : Except Failure Path :=
  match p.root, p.parts with
  | [], ('~' :: name) :: rest =>
    match (homeFor? homes name).map tidyHome with
    | none => .error .homeUnknown
    | some home =>
      if Text.beginsWith ['~'] home then .error .homeUnknown
      else
        let base := ofText home
        .ok ⟨base.root, base.parts ++ rest⟩
  | _, _ => .ok p

end Path

end LuaAtlas
