import LuaAtlas.Pattern.Basic
import LuaAtlas.Text.Quoted

/-!
# Faults in patterns

What keeps a text from being a pattern.  A `Complaint` says what is wrong, a `Fault` also says
where; `Fault.message` is its wording for the reader.
-/

namespace LuaAtlas.Pattern

/-- What is wrong with a pattern. -/
inductive Complaint where
  | danglingEscape
  | badEscape (escape : Text)
  | incompleteEscape (escape : Text)
  | octalTooLarge (escape : Text)
  | missing (what : String)
  | unterminatedName (terminator : Char)
  | undefinedCharacter (name : Text)
  | openGroup
  | groupOfSameLook
  | invalidGroup (number : Nat)
  | badRange (first last : Text)
  | unterminatedSet
  | nothingToRepeat
  | multipleRepeat
  | leastAboveMost
  | unexpectedEnd
  | unknownExtension (extension : Text)
  | unterminatedComment
  | unterminatedGroup
  | badGroupName (name : Text)
  | unknownGroupName (name : Text)
  | badGroupNumber
  | groupRedefined (name : Text) (number earlier : Nat)
  | tooManyBranches
  | flagsNotAtStart
  | unknownFlag
  | badFlags (reason : String)
  | unbalancedParenthesis
  | farLook
  | variableLook
  /-- A number of repetitions that does not fit in a word. -/
  | repetitionTooLarge
  /-- Two switches that choose the alphabet in different ways for the whole pattern. -/
  | clashingAlphabets
  deriving Repr, DecidableEq

/-- The wording of a complaint. -/
def Complaint.message : Complaint → String
  | danglingEscape => "bad escape (end of pattern)"
  | badEscape escape => s!"bad escape {Text.str escape}"
  | incompleteEscape escape => s!"incomplete escape {Text.str escape}"
  | octalTooLarge escape =>
    s!"octal escape value {Text.str escape} outside of range 0-0o377"
  | missing what => s!"missing {what}"
  | unterminatedName terminator => s!"missing {terminator}, unterminated name"
  | undefinedCharacter name => s!"undefined character name {Text.str (Text.quoted name)}"
  | openGroup => "cannot refer to an open group"
  | groupOfSameLook => "cannot refer to group defined in the same lookbehind subpattern"
  | invalidGroup number => s!"invalid group reference {number}"
  | badRange first last => s!"bad character range {Text.str first}-{Text.str last}"
  | unterminatedSet => "unterminated character set"
  | nothingToRepeat => "nothing to repeat"
  | multipleRepeat => "multiple repeat"
  | leastAboveMost => "min repeat greater than max repeat"
  | unexpectedEnd => "unexpected end of pattern"
  | unknownExtension extension => s!"unknown extension {Text.str extension}"
  | unterminatedComment => "missing ), unterminated comment"
  | unterminatedGroup => "missing ), unterminated subpattern"
  | badGroupName name => s!"bad character in group name {Text.str (Text.quoted name)}"
  | unknownGroupName name => s!"unknown group name {Text.str (Text.quoted name)}"
  | badGroupNumber => "bad group number"
  | groupRedefined name number earlier =>
    s!"redefinition of group name {Text.str (Text.quoted name)} as group {number}; " ++
      s!"was group {earlier}"
  | tooManyBranches => "conditional backref with more than two branches"
  | flagsNotAtStart => "global flags not at the start of the expression"
  | unknownFlag => "unknown flag"
  | badFlags reason => s!"bad inline flags: {reason}"
  | unbalancedParenthesis => "unbalanced parenthesis"
  | farLook => "looks too much behind"
  | variableLook => "look-behind requires fixed-width pattern"
  | repetitionTooLarge => "the repetition number is too large"
  | clashingAlphabets => "ASCII and UNICODE flags are incompatible"

/-- A complaint and the place that it is about, if it is about one. -/
structure Fault where
  complaint : Complaint
  position : Option Nat
  deriving Repr, DecidableEq

/-- The number of the line that a position stands on. -/
def lineOf (pattern : Text) (position : Nat) : Nat := (pattern.take position).count '\n' + 1

/-- The number of the column that a position stands in. -/
def columnOf (pattern : Text) (position : Nat) : Nat :=
  ((pattern.take position).reverse.takeWhile (· != '\n')).length + 1

/-- **The wording of a fault**: the complaint, its place, and its line and column if the pattern has
several lines. -/
def Fault.message (pattern : Text) (f : Fault) : String :=
  match f.position with
  | none => f.complaint.message
  | some position =>
    let lines :=
      if pattern.contains '\n' then
        s!" (line {lineOf pattern position}, column {columnOf pattern position})"
      else ""
    s!"{f.complaint.message} at position {position}{lines}"

end LuaAtlas.Pattern
