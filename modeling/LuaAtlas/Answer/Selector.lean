import LuaAtlas.Json.Coercion

/-!
# Selectors

A request points at a symbol or file by its number, by its name, or by a truth value, which stands
for the number one or zero.
-/

namespace LuaAtlas

/-- How a request points at something. -/
inductive Selector where
  | number (n : Int)
  | flag (value : Bool)
  | text (t : Text)
  deriving Repr, DecidableEq

namespace Selector

/-- The number that a selector gives; a text gives none. -/
def number? : Selector → Option Int
  | number n => some n
  | flag value => some (if value then 1 else 0)
  | text _ => none

/-- How a selector reads inside a message. -/
def display : Selector → Text
  | number n => Text.ofInt n
  | flag value => Json.display (.bool value)
  | text t => t

/-- A selector as JSON. -/
def json : Selector → Json
  | number n => .int n
  | flag value => .bool value
  | text t => .text t

/-- The selector that a value is. -/
def ofJson : Json → Selector
  | .int n => number n
  | .bool value => flag value
  | value => text value.display

end Selector

end LuaAtlas
