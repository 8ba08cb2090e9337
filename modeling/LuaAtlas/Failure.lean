import LuaAtlas.Pattern.Fault
import LuaAtlas.Text.Integer

/-!
# Failures

What keeps a request from being answered at all.  `Failure.message` is the wording for the reader.
-/

namespace LuaAtlas

/-- What keeps a request from being answered. -/
inductive Failure where
  /-- A builder was used a second time. -/
  | builtTwice
  /-- A path begins in the home directory of nobody. -/
  | homeUnknown
  /-- A query is no pattern. -/
  | invalidPattern (query : Text) (fault : Pattern.Fault)
  /-- A text is no integer that can be read. -/
  | invalidInteger (text : Text)
  /-- A value of the given sort is no integer and no text. -/
  | notNumeric (sort : String)
  /-- A request lacks an argument. -/
  | missingArgument (name : String)
  deriving Repr, DecidableEq

/-- What is said about a text that is no integer, of which the first 200 characters are shown, or
about an integer with too many digits. -/
def integerComplaint (text : Text) : String :=
  match Text.excessDigits? text with
  | some digits =>
    s!"Exceeds the limit ({Text.digitLimit} digits) for integer string conversion: " ++
      s!"value has {digits} digits; use sys.set_int_max_str_digits() to increase the limit"
  | none =>
    s!"invalid literal for int() with base 10: {Text.str ((Text.quoted text).take 200)}"

/-- The wording of a failure.  Two complaints about a pattern speak for themselves; the others stand
behind the pattern. -/
def Failure.message : Failure → String
  | builtTwice => "TypeExtractor instances build exactly once"
  | homeUnknown => "Could not determine home directory."
  | invalidPattern query fault =>
    match fault.complaint with
    | .repetitionTooLarge => fault.complaint.message
    | .clashingAlphabets => fault.complaint.message
    | _ => s!"Invalid regex {Text.str (Text.quoted query)}: {fault.message query}"
  | invalidInteger text => integerComplaint text
  | notNumeric sort =>
    s!"int() argument must be a string, a bytes-like object or a real number, not '{sort}'"
  | missingArgument name => Text.str (Text.quoted name.toList)

end LuaAtlas
