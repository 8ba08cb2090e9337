import LuaAtlas.Text.Bracket
import LuaAtlas.Name

/-!
# Where a type ends

An annotation goes on with a description behind its type.  The type ends at the first blank outside
brackets, unless one of the marks `|`, `,` and `:` stands next to that blank (`cut?`).  Behind
`---@return` stand several types with commas between them, each with a name if wanted
(`returnTypes`).
-/

namespace LuaAtlas.TypeExpr

/-- The marks that join a type across blanks. -/
def isJoint (c : Char) : Bool := c == '|' || c == ',' || c == ':'

/-- Whether a joint stands at a place that may be empty. -/
def isJoint? (c : Option Char) : Bool := c.any isJoint

/-- The type at the front of a text, at a bracket depth and behind the character `last`, the nearest
one that is not blank. -/
def cutFrom (depth : Int) (last : Option Char) : Text → Text
  | [] => []
  | c :: cs =>
    if Text.isBlank c then
      if depth = 0 && !isJoint? last && !isJoint? (Text.trimLeft cs).head? then []
      else c :: cutFrom depth last cs
    else c :: cutFrom (Bracket.step depth c) (some c) cs

/-- **The type at the front of a text**, blanks in front of it apart.  A blank text holds none. -/
def cut? (t : Text) : Option Text :=
  match Text.trim t with
  | [] => none
  | c :: cs => some (cutFrom 0 none (c :: cs))

/-! ### Return values -/

/-- The names that a return value may have: a name or three dots, and a question mark behind it if
wanted. -/
def isReturnName (t : Text) : Bool :=
  match Name.readParam? t with
  | some (_, []) => true
  | some (_, ['?']) => true
  | _ => false

/-- Whether nothing but a name, or nothing at all, follows a return type. -/
def endsReturnValue (rest : Text) : Bool :=
  match Text.words rest with
  | [] => true
  | [w] => isReturnName w
  | _ => false

/-- The types of return values.  A value with more than a name behind its type starts the
description, so no later value is read. -/
def returnTypesOf : List Text → List Text
  | [] => []
  | part :: parts =>
    match cut? part with
    | none => []
    | some type =>
      type ::
        if endsReturnValue ((Text.trim part).drop type.length) then returnTypesOf parts else []

/-- **The types of the return values in a text.** -/
def returnTypes (t : Text) : List Text := returnTypesOf (Bracket.splitTop ',' t)

end LuaAtlas.TypeExpr
