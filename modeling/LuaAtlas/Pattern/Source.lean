import LuaAtlas.Pattern.Fault

/-!
# The text of a pattern

A pattern is read from its front in tokens: a backslash and the character behind it are one token,
any other character is one.  A `Source` is the text still to be read together with what was learnt
about groups and switches on the way.  The reader always knows the token in front, so a backslash at
the very end is a fault as soon as it stands in front.
-/

namespace LuaAtlas.Pattern

/-- The unread rest of a pattern, and what the part before it says about groups and switches. -/
structure Source where
  /-- The length of the whole pattern. -/
  size : Nat
  rest : Text
  /-- How many groups were opened. -/
  groups : Nat := 0
  /-- The groups that were closed, with their widths. -/
  closed : List (Nat × Width) := []
  /-- The groups that have names. -/
  names : List (Text × Nat) := []
  /-- Inside a look behind: how many groups were opened in front of it. -/
  lookGroups : Option Nat := none
  /-- The groups that conditions ask for by number, each with the position of the first such
  condition, in the order of the pattern. -/
  conditions : List (Nat × Nat) := []
  /-- The switches turned on for the whole pattern. -/
  flags : List Flag := []

/-- Steps that read from a source and may meet a fault. -/
abbrev Reader := StateT Source (Except Fault)

/-- The token in front of a text; empty at its end. -/
def tokenOf : Text → Text
  | '\\' :: c :: _ => ['\\', c]
  | c :: _ => [c]
  | [] => []

namespace Reader

/-- The position of the token in front. -/
def position : Reader Nat := do
  let s ← get
  return s.size - s.rest.length

/-- A fault at a position. -/
def failAt {α : Type} (position : Nat) (complaint : Complaint) : Reader α :=
  throw ⟨complaint, some position⟩

/-- A fault a number of characters in front of the token in front. -/
def failBack {α : Type} (offset : Nat) (complaint : Complaint) : Reader α := do
  failAt ((← position) - offset) complaint

/-- The token in front. -/
def peek : Reader Text := do
  return tokenOf (← get).rest

/-- The token in front is passed over. -/
def advance : Reader Unit := do
  let s ← get
  let rest := s.rest.drop (tokenOf s.rest).length
  if rest = ['\\'] then failAt (s.size - 1) .danglingEscape
  else modify ({ · with rest })

/-- The token in front is read. -/
def take : Reader Text := do
  let token ← peek
  advance
  return token

/-- The token in front is read if it is a certain character. -/
def accept (c : Char) : Reader Bool := do
  if (← peek) = [c] then
    advance
    return true
  else return false

/-- Up to `n` characters of a class are read. -/
def takeWhile (p : Char → Bool) : Nat → Reader Text
  | 0 => return []
  | n + 1 => do
    match ← peek with
    | [c] =>
      if p c then
        advance
        return c :: (← takeWhile p n)
      else return []
    | _ => return []

/-- All characters of a class that stand in front are read. -/
def takeAll (p : Char → Bool) : Reader Text := do
  takeWhile p (← get).rest.length

/-- Tokens are read up to a terminator, at most `n` of them. -/
def takeUntilWithin (terminator : Char) (what : String) (read : Text) : Nat → Reader Text
  | 0 => return read
  | n + 1 => do
    let token ← take
    if token = [] then
      if read.isEmpty then failBack 0 (.missing what)
      else failBack read.length (.unterminatedName terminator)
    else if token = [terminator] then
      if read.isEmpty then failBack 1 (.missing what) else return read
    else takeUntilWithin terminator what (read ++ token) n

/-- **The text up to a terminator**, which is read too.  The text must not be empty; `what` says
what it is. -/
def takeUntil (terminator : Char) (what : String) : Reader Text := do
  takeUntilWithin terminator what [] ((← get).rest.length + 1)

end Reader

end LuaAtlas.Pattern
