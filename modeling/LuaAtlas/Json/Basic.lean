import LuaAtlas.Text.Basic

/-!
# JSON values

Requests come and answers go as JSON.  The fields of an object keep their order.  A number is an
integer or a decimal fraction; answers hold integers only.
-/

namespace LuaAtlas

/-- A JSON value. -/
inductive Json where
  | null
  | bool (value : Bool)
  | int (value : Int)
  /-- The fraction `mantissa / 10 ^ places`, written with a point or an exponent. -/
  | decimal (mantissa : Int) (places : Nat)
  | str (value : String)
  | arr (items : List Json)
  | obj (fields : List (String × Json))
  deriving Inhabited

namespace Json

/-- A natural number as JSON. -/
def nat (n : Nat) : Json := int n

/-- A text as JSON. -/
def text (t : Text) : Json := str (Text.str t)

/-- A value that may be absent. -/
def ofOption {α : Type} (f : α → Json) : Option α → Json
  | none => null
  | some a => f a

/-- A list of texts as JSON. -/
def texts (ts : List Text) : Json := arr (ts.map text)

/-- The field with a key; of several the last. -/
def field? (key : String) : Json → Option Json
  | obj fields => (fields.reverse.find? (·.1 == key)).map (·.2)
  | _ => none

/-- **What counts as true**: everything but null, false, zero and what is empty. -/
def isTruthy : Json → Bool
  | null => false
  | bool value => value
  | int value => value != 0
  | decimal mantissa _ => mantissa != 0
  | str value => !value.isEmpty
  | arr items => !items.isEmpty
  | obj fields => !fields.isEmpty

/-- The values that a walk through a value meets: the items of an array, the characters of a string,
the keys of an object. -/
def elements : Json → List Json
  | arr items => items
  | str value => value.toList.map fun c => text [c]
  | obj fields => fields.map fun f => str f.1
  | _ => []

end Json

end LuaAtlas
