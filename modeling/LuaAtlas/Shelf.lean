import LuaAtlas.Catalog.Basic

/-!
# The shelf

Catalogues that were built are kept under names, in the order in which the names first came up.  A
new catalogue under an old name takes the place of the old one.
-/

namespace LuaAtlas

/-- A catalogue on the shelf: its name, when it was built, and the path of each of its files. -/
structure Volume where
  name : Text
  builtAt : Text
  sources : List Text
  catalog : Catalog

/-- The name of a file: its path, or else its number. -/
def Volume.sourceName (v : Volume) (file : Int) : Text :=
  (file.toNat?.bind (v.sources[·]?)).getD (Text.ofInt file)

/-- The catalogues that are kept. -/
structure Shelf where
  volumes : List Volume := []

namespace Shelf

/-- The name of the catalogue that a request means if it names none. -/
def defaultName : Text := "default".toList

/-- The catalogue with a name. -/
def get? (s : Shelf) (name : Text) : Option Volume := s.volumes.find? (·.name == name)

/-- The names on the shelf. -/
def names (s : Shelf) : List Text := s.volumes.map (·.name)

/-- A catalogue is put among others: in the place of the one with the same name, or behind all. -/
def putAmong (v : Volume) : List Volume → List Volume
  | [] => [v]
  | u :: us => if u.name == v.name then v :: us else u :: putAmong v us

/-- A catalogue is put on the shelf. -/
def put (s : Shelf) (v : Volume) : Shelf := { volumes := putAmong v s.volumes }

/-- The catalogue with a name is removed. -/
def erase (s : Shelf) (name : Text) : Shelf :=
  { volumes := s.volumes.filter (·.name != name) }

/-- A catalogue that was put on the shelf is found there. -/
theorem get?_put_self (s : Shelf) (v : Volume) : (s.put v).get? v.name = some v := by
  unfold put get?
  induction s.volumes with
  | nil => simp [putAmong]
  | cons u us ih =>
    by_cases h : u.name = v.name
    · simp [putAmong, h]
    · simpa [putAmong, h] using ih

/-- Catalogues under other names stay what they are. -/
theorem get?_put_of_ne (s : Shelf) (v : Volume) {name : Text} (h : v.name ≠ name) :
    (s.put v).get? name = s.get? name := by
  unfold put get?
  induction s.volumes with
  | nil => simp [putAmong, h]
  | cons u us ih =>
    by_cases hn : u.name = name
    · simp [putAmong, hn, Ne.symm h]
    · by_cases hu : u.name = v.name
      · simp [putAmong, hu, h]
      · simpa [putAmong, hu, hn] using ih

end Shelf

end LuaAtlas
