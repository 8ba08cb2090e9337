import LuaAtlas.Source.FileTree
import LuaAtlas.Text.Decoding

/-!
# Reading sources

Sources are files given by their paths, in the order in which they are to be read.  A path that
leads to no file, or to one that is too large or cannot be read, is passed over with a warning, so
the texts that were read and their paths correspond one to one.
-/

namespace LuaAtlas

/-- The surroundings of a session. -/
structure Surroundings where
  files : FileTree := {}
  homes : Homes := { own := "home".toList }
  /-- The paths to read when a request names none, with colons between them. -/
  sources : Text := []
  /-- The time that builds are marked with. -/
  now : Text := []

/-- What reading sources gives: the texts, the path of each, and warnings about the paths that were
passed over. -/
structure Sources where
  paths : List Text := []
  contents : List Text := []
  warnings : List Text := []

namespace Sources

/-- The greatest number of octets that a file may hold. -/
def sizeLimit : Int := 20 * 1024 * 1024

/-- The warning about a path that leads to no file. -/
def notFound (path : Text) : Text := "File not found: ".toList ++ path

/-- The warning about a file that is too large. -/
def tooLarge (path : Text) : Text := "File too large, skipped: ".toList ++ path

/-- The warning about a file that cannot be read, with what was said about it. -/
def failed (path complaint : Text) : Text :=
  "Failed to read ".toList ++ path ++ ": ".toList ++ complaint

/-- The text of a file. -/
def contentOf (octets : ByteArray) : Text := Text.unifyNewlines (Text.decode octets.data.toList)

/-- One path, in front of what the later ones gave. -/
def add (s : Surroundings) (limit : Int) (path : Text) (target : Path) (rest : Sources) : Sources :=
  match s.files.file? target with
  | none => { rest with warnings := notFound path :: rest.warnings }
  | some file =>
    if limit < file.size then { rest with warnings := tooLarge path :: rest.warnings }
    else
      match file.read target with
      | .error complaint => { rest with warnings := failed path complaint :: rest.warnings }
      | .ok octets =>
        { rest with
          paths := target.text :: rest.paths
          contents := contentOf octets :: rest.contents }

/-- **The sources at the given paths.** -/
def read (s : Surroundings) (limit : Int) : List Text → Except Failure Sources
  | [] => .ok {}
  | path :: paths =>
    match (Path.ofText path).expandHome s.homes with
    | .error failure => .error failure
    | .ok target => (read s limit paths).map (add s limit path target)

end Sources

/-- The paths to read when a request names none; blank ones do not count. -/
def Surroundings.defaultPaths (s : Surroundings) : List Text :=
  (s.sources.splitOn ':').filter fun path => !(Text.trim path).isEmpty

end LuaAtlas
