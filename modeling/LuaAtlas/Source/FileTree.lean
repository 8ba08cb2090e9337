import LuaAtlas.Source.Path
import LuaAtlas.Text.Quoted

/-!
# File trees

The files that can be read, each under the components of its path from the root on.  An absolute
path starts at the root, a relative one in the working directory, and it leads on step by step: each
step needs a directory, and two dots lead back to the directory above; above the root is the root.

A file that is there may still refuse to be read.
-/

namespace LuaAtlas

/-- Why a file is not read. -/
structure Refusal where
  code : Nat
  reason : Text
  /-- A file that cannot be opened is named; one that breaks off in the middle is not. -/
  named : Bool := true
  deriving Repr, DecidableEq

/-- What is said about a file that is not read. -/
def Refusal.message (r : Refusal) (path : Path) : Text :=
  "[Errno ".toList ++ Text.ofNat r.code ++ "] ".toList ++ r.reason ++
    if r.named then ": ".toList ++ Text.quoted path.text else []

/-- A file. -/
inductive File where
  | readable (octets : ByteArray)
  /-- Its size is known all the same. -/
  | unreadable (size : Nat) (refusal : Refusal)

namespace File

/-- How many octets a file holds. -/
def size : File → Nat
  | readable octets => octets.size
  | unreadable size _ => size

/-- The octets of the file that a path leads to, or what is said instead. -/
def read (path : Path) : File → Except Text ByteArray
  | readable octets => .ok octets
  | unreadable _ refusal => .error (refusal.message path)

end File

/-- Files and directories by their places, which are given from the root on.  A directory need not
hold files.  Of several files at one place the first counts. -/
structure FileTree where
  files : List (List Text × File) := []
  folders : List (List Text) := []
  /-- The working directory. -/
  workplace : List Text := []

namespace FileTree

/-- Whether there is a directory at a place. -/
def isFolder (t : FileTree) (place : List Text) : Bool :=
  place.isPrefixOf t.workplace || t.folders.any place.isPrefixOf ||
    t.files.any fun f => place.isPrefixOf f.1 && place != f.1

/-- The place that components lead to from another place. -/
def walk (t : FileTree) (place : List Text) : List Text → Option (List Text)
  | [] => some place
  | part :: parts =>
    if !t.isFolder place then none
    else if part = ['.', '.'] then walk t place.dropLast parts
    else walk t (place ++ [part]) parts

/-- Where a path begins. -/
def base (t : FileTree) (p : Path) : List Text := if p.root.isEmpty then t.workplace else []

/-- **The file that a path leads to.** -/
def file? (t : FileTree) (p : Path) : Option File :=
  (t.walk (t.base p) p.parts).bind fun place => t.files.lookup place

end FileTree

end LuaAtlas
