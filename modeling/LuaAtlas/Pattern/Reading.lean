import LuaAtlas.Pattern.Escape
import LuaAtlas.Text.Identifier
import LuaAtlas.Text.Integer

/-!
# Reading patterns

`Pattern.read` turns a text into a pattern or tells the first fault in it.  The reader goes through
the tokens once.  It keeps a stack of frames, one for each parenthesis that is open and one for the
whole pattern below them; a frame collects the pieces between its parentheses.  Every step takes at
least one token, so the length of the text bounds the number of steps.
-/

namespace LuaAtlas.Pattern

/-! ### Frames -/

/-- What a closing parenthesis makes of the pattern in front of it. -/
inductive Opening where
  /-- Nothing: the frame of the whole pattern is never closed. -/
  | whole
  | group (number : Nat)
  | plain (on off : List Flag)
  | atomic
  | ahead (negated : Bool)
  /-- A look behind; `outer` is what `Source.lookGroups` was in front of it. -/
  | behind (negated : Bool) (outer : Option Nat)
  | condition (number : Nat)

/-- Whether a piece may be repeated. -/
inductive PieceKind where
  | repeatable
  | anchor
  | repetition
  deriving DecidableEq

/-- A pattern and whether it may be repeated. -/
structure Piece where
  kind : PieceKind
  pattern : Pattern

/-- What was read behind an open parenthesis. -/
structure Frame where
  opening : Opening
  /-- The position of the parenthesis. -/
  start : Nat := 0
  /-- Whether blanks and comments count for nothing. -/
  verbose : Bool := false
  /-- The finished alternatives, latest first. -/
  branches : List Pattern := []
  /-- The pieces of the present alternative, latest first. -/
  pieces : List Piece := []

namespace Frame

/-- The present alternative. -/
def branch (f : Frame) : Pattern := .ofList (f.pieces.reverse.map (·.pattern))

/-- The alternatives, in the order of the pattern. -/
def alternatives (f : Frame) : List Pattern := f.branches.reverse ++ [f.branch]

/-- All that was read, as one pattern. -/
def pattern (f : Frame) : Pattern := .anyOf f.alternatives

/-- A new alternative begins. -/
def nextBranch (f : Frame) : Frame := { f with branches := f.branch :: f.branches, pieces := [] }

/-- A piece is added. -/
def push (f : Frame) (kind : PieceKind) (pattern : Pattern) : Frame :=
  { f with pieces := ⟨kind, pattern⟩ :: f.pieces }

/-- Whether no piece of the whole pattern was read. -/
def isFresh (f : Frame) : Bool :=
  match f.opening with
  | .whole => f.branches.isEmpty && f.pieces.isEmpty
  | _ => false

/-- A pattern is added, as an anchor or as something that may be repeated. -/
def add (f : Frame) : Pattern → Frame
  | .anchor a => f.push .anchor (.anchor a)
  | p => f.push .repeatable p

end Frame

/-! ### Switches -/

/-- Whether a token is a letter. -/
def isLetter : Text → Bool
  | [c] => Text.isIdentifier [c] && c != '_'
  | _ => false

/-- The fault in a token that is no letter of a switch. -/
def failFlag {α : Type} (token : Text) (expected : String) : Reader α :=
  Reader.failBack token.length (if isLetter token then .unknownFlag else .missing expected)

/-- The switches to turn on, from the letter `token` on, and the token that ends them. -/
def readOn (on : List Flag) (token : Text) : Nat → Reader (List Flag × Text)
  | 0 => return (on, token)
  | n + 1 => do
    match Flag.ofLetter? token with
    | none => failFlag token "-, : or )"
    | some flag =>
      if flag = .locale then
        Reader.failBack 0 (.badFlags "cannot use 'L' flag with a str pattern")
      else if flag.choosesAlphabet && on.any (fun f => f.choosesAlphabet && f != flag) then
        Reader.failBack 0 (.badFlags "flags 'a', 'u' and 'L' are incompatible")
      else
        let next ← Reader.take
        if next = [] then Reader.failBack 0 (.missing "-, : or )")
        else if next = [')'] || next = ['-'] || next = [':'] then return (on ++ [flag], next)
        else readOn (on ++ [flag]) next n

/-- The switches to turn off, from the letter `token` on, up to the colon behind them. -/
def readOff (off : List Flag) (token : Text) (expected : String) : Nat → Reader (List Flag)
  | 0 => return off
  | n + 1 => do
    if token = [] then Reader.failBack 0 (.missing expected)
    else
      match Flag.ofLetter? token with
      | none => failFlag token expected
      | some flag =>
        if flag.choosesAlphabet then
          Reader.failBack 0 (.badFlags "cannot turn off flags 'a', 'u' and 'L'")
        else
          let next ← Reader.take
          if next = [':'] then return off ++ [flag]
          else readOff (off ++ [flag]) next ":" n

/-- **Switches** behind `(?`, from their first token on.  Switches up to a closing parenthesis are
for the whole pattern, and then there is no result. -/
def readFlags (token : Text) : Reader (Option (List Flag × List Flag)) := do
  let steps := (← get).rest.length + 1
  let (on, next) ← if token = ['-'] then pure ([], token) else readOn [] token steps
  if next = [')'] then
    modify fun s => { s with flags := s.flags ++ on }
    return none
  else if on.contains .template then
    Reader.failBack 1 (.badFlags "cannot turn on global flag")
  else
    let off ← if next = ['-'] then readOff [] (← Reader.take) "flag" steps else pure []
    if off.contains .template then Reader.failBack 1 (.badFlags "cannot turn off global flag")
    else if on.any off.contains then Reader.failBack 1 (.badFlags "flag turned on and off")
    else return some (on, off)

/-! ### Parentheses -/

/-- What an opening parenthesis begins. -/
inductive Opened where
  /-- A group that lasts up to a closing parenthesis. -/
  | frame (frame : Frame)
  /-- A pattern that is complete. -/
  | pattern (pattern : Pattern)
  /-- A comment. -/
  | nothing
  /-- Switches for the whole pattern. -/
  | switches

/-- The name of a group has to be an identifier. -/
def checkGroupName (name : Text) : Reader Unit :=
  if Text.isIdentifier name then return ()
  else Reader.failBack (name.length + 1) (.badGroupName name)

/-- The next number is given to a group, and its name if it has one. -/
def openGroup (name : Option Text) : Reader Nat := do
  let s ← get
  let number := s.groups + 1
  match name with
  | none =>
    modify fun s => { s with groups := number }
    return number
  | some name =>
    match s.names.lookup name with
    | some earlier => Reader.failBack (name.length + 1) (.groupRedefined name number earlier)
    | none =>
      modify fun s => { s with groups := number, names := s.names ++ [(name, number)] }
      return number

/-- The number of the group with a name. -/
def groupNamed (name : Text) : Reader Nat := do
  match (← get).names.lookup name with
  | none => Reader.failBack (name.length + 1) (.unknownGroupName name)
  | some number => return number

/-- The greatest number that a condition may ask for, and one more. -/
def groupLimit : Nat := 1073741823

/-- The group that a condition asks for, by its name or number. -/
def conditionGroup (name : Text) : Reader Nat := do
  if Text.isIdentifier name then groupNamed name
  else
    match (Text.toInt? name).bind Int.toNat? with
    | none => Reader.failBack (name.length + 1) (.badGroupName name)
    | some number =>
      if number = 0 then Reader.failBack (name.length + 1) .badGroupNumber
      else if groupLimit ≤ number then Reader.failBack (name.length + 1) (.invalidGroup number)
      else
        let position := (← Reader.position) - name.length - 1
        modify fun s =>
          if (s.conditions.lookup number).isSome then s
          else { s with conditions := s.conditions ++ [(number, position)] }
        return number

/-- A comment up to its closing parenthesis, in at most `n` steps. -/
def skipComment (start : Nat) : Nat → Reader Unit
  | 0 => return ()
  | n + 1 => do
    let token ← Reader.peek
    if token = [] then Reader.failAt start .unterminatedComment
    else
      Reader.advance
      if token = [')'] then return () else skipComment start n

/-- What stands behind `(?P`: a group with a name, or what such a group matched. -/
def readNamedGroup (start : Nat) (verbose : Bool) : Reader Opened := do
  if ← Reader.accept '<' then
    let name ← Reader.takeUntil '>' "group name"
    checkGroupName name
    return .frame { opening := .group (← openGroup (some name)), start, verbose }
  else if ← Reader.accept '=' then
    let name ← Reader.takeUntil ')' "group name"
    checkGroupName name
    return .pattern (← readAgain (← groupNamed name) (name.length + 1))
  else
    let token ← Reader.take
    if token = [] then Reader.failBack 0 .unexpectedEnd
    else Reader.failBack (token.length + 2) (.unknownExtension ("?P".toList ++ token))

/-- What stands behind `(?<`: a look behind. -/
def readBehind (start : Nat) (verbose : Bool) : Reader Opened := do
  let token ← Reader.take
  if token = [] then Reader.failBack 0 .unexpectedEnd
  else if token = ['='] || token = ['!'] then
    let s ← get
    modify fun s => { s with lookGroups := s.lookGroups.or (some s.groups) }
    return .frame { opening := .behind (token = ['!']) s.lookGroups, start, verbose }
  else Reader.failBack (token.length + 2) (.unknownExtension ("?<".toList ++ token))

/-- What stands behind `(?` and the token after it. -/
def readExtension (frame : Frame) (start : Nat) (token : Text) : Reader Opened := do
  let verbose := frame.verbose
  match token with
  | [] => Reader.failBack 0 .unexpectedEnd
  | ['P'] => readNamedGroup start verbose
  | [':'] => return .frame { opening := .plain [] [], start, verbose }
  | ['#'] =>
    skipComment start ((← get).rest.length + 1)
    return .nothing
  | ['='] => return .frame { opening := .ahead false, start, verbose }
  | ['!'] => return .frame { opening := .ahead true, start, verbose }
  | ['<'] => readBehind start verbose
  | ['('] =>
    let number ← conditionGroup (← Reader.takeUntil ')' "group name")
    checkLook number
    return .frame { opening := .condition number, start, verbose }
  | ['>'] => return .frame { opening := .atomic, start, verbose }
  | _ =>
    if token = ['-'] || (Flag.ofLetter? token).isSome then
      match ← readFlags token with
      | some (on, off) =>
        let inner := (verbose || on.contains .verbose) && !off.contains .verbose
        return .frame { opening := .plain on off, start, verbose := inner }
      | none =>
        if frame.isFresh then return .switches else Reader.failAt start .flagsNotAtStart
    else Reader.failBack (token.length + 1) (.unknownExtension ('?' :: token))

/-- **An opening parenthesis**, which was read, inside a frame. -/
def readOpening (frame : Frame) : Reader Opened := do
  let start := (← Reader.position) - 1
  if ← Reader.accept '?' then readExtension frame start (← Reader.take)
  else return .frame { opening := .group (← openGroup none), start, verbose := frame.verbose }

/-- The pattern that a frame makes when it is closed. -/
def closeFrame (f : Frame) : Reader Pattern := do
  match f.opening with
  | .whole => return f.pattern
  | .group number =>
    modify fun s => { s with closed := s.closed ++ [(number, f.pattern.width)] }
    return .group number f.pattern
  | .plain on off => return .flagged on off f.pattern
  | .atomic => return .atomic f.pattern
  | .ahead negated => return .ahead negated f.pattern
  | .behind negated outer =>
    modify fun s => { s with lookGroups := outer }
    return .behind negated f.pattern
  | .condition number =>
    match f.alternatives with
    | yes :: no :: _ => return .ifGroup number yes no
    | _ => return .ifGroup number f.branch .empty

/-! ### Repetitions -/

/-- Numbers of repetitions lie below this one. -/
def repetitionLimit : Nat := 4294967295

/-- A number of repetitions, if digits are given for one. -/
def repetitionOf (digits : Text) : Reader (Option Nat) := do
  if digits.isEmpty then return none
  else if repetitionLimit ≤ valueOf 10 digits then throw ⟨.repetitionTooLarge, none⟩
  else return some (valueOf 10 digits)

/-- The bounds between braces, behind the opening brace.  Where no bounds stand there is no result,
nothing is read, and the brace stands for itself. -/
def readBounds : Reader (Option (Nat × Option Nat)) := do
  let saved ← get
  if (← Reader.peek) = ['}'] then return none
  else
    let low ← Reader.takeAll Char.isDigit
    let high ← if ← Reader.accept ',' then Reader.takeAll Char.isDigit else pure low
    if ← Reader.accept '}' then
      let least := (← repetitionOf low).getD 0
      let most ← repetitionOf high
      if most.any (· < least) then
        Reader.failAt (saved.size - saved.rest.length) .leastAboveMost
      else return some (least, most)
    else
      modify fun _ => saved
      return none

/-- How a repetition chooses its number: by a mark behind it. -/
def readGreed : Reader Greed := do
  if ← Reader.accept '?' then return .lazy
  else if ← Reader.accept '+' then return .possessive
  else return .greedy

/-- The latest piece of a frame is repeated, by a repetition written at `start`. -/
def repeatPiece (f : Frame) (start least : Nat) (most : Option Nat) : Reader Frame := do
  match f.pieces with
  | [] => Reader.failAt start .nothingToRepeat
  | piece :: pieces =>
    match piece.kind with
    | .anchor => Reader.failAt start .nothingToRepeat
    | .repetition => Reader.failAt start .multipleRepeat
    | .repeatable =>
      let repeated := .repeated (← readGreed) least most piece.pattern
      return ({ f with pieces }).push .repetition repeated

/-! ### The walk -/

/-- The blanks that count for nothing in a verbose pattern. -/
def isVerboseBlank (c : Char) : Bool := c == ' ' || (9 ≤ c.toNat && c.toNat ≤ 13)

/-- The rest of a line is passed over, in at most `n` steps. -/
def skipLine : Nat → Reader Unit
  | 0 => return ()
  | n + 1 => do
    let token ← Reader.take
    if token = [] || token = ['\n'] then return () else skipLine n

/-- **One token inside a frame**, which was read from position `start`, and all that belongs to it.
The second result is a group that it opens. -/
def readToken (f : Frame) (start : Nat) (token : Text) : Reader (Frame × Option Frame) := do
  match token with
  | ['\\', c] => return (f.add (← readEscape c), none)
  | ['['] => return (f.add (← readSet), none)
  | ['.'] => return (f.add .any, none)
  | ['^'] => return (f.add (.anchor .lineStart), none)
  | ['$'] => return (f.add (.anchor .lineEnd), none)
  | ['*'] => return (← repeatPiece f start 0 none, none)
  | ['+'] => return (← repeatPiece f start 1 none, none)
  | ['?'] => return (← repeatPiece f start 0 (some 1), none)
  | ['{'] =>
    match ← readBounds with
    | some (least, most) => return (← repeatPiece f start least most, none)
    | none => return (f.add (.code '{'.toNat), none)
  | ['('] =>
    match ← readOpening f with
    | .frame inner => return (f, some inner)
    | .pattern p => return (f.add p, none)
    | .nothing => return (f, none)
    | .switches => return ({ f with verbose := (← get).flags.contains .verbose }, none)
  | c :: _ =>
    if f.verbose && isVerboseBlank c then return (f, none)
    else if f.verbose && c = '#' then
      skipLine ((← get).rest.length + 1)
      return (f, none)
    else return (f.add (.code c.toNat), none)
  | [] => return (f, none)

/-- The switches for the whole pattern must choose one alphabet. -/
def checkAlphabet : Reader Unit := do
  let flags := (← get).flags
  if flags.contains .ascii && flags.contains .unicode then throw ⟨.clashingAlphabets, none⟩
  else return ()

/-- The pattern from the token in front on, in at most `n` steps: inside the frame `f`, which stands
in the frames `outer`. -/
def readFrom (f : Frame) (outer : List Frame) : Nat → Reader Pattern
  | 0 => return f.pattern
  | n + 1 => do
    let start ← Reader.position
    let token ← Reader.peek
    match token, outer with
    | [], [] =>
      checkAlphabet
      return f.pattern
    | [], _ :: _ => Reader.failAt f.start .unterminatedGroup
    | [')'], [] =>
      checkAlphabet
      Reader.failAt start .unbalancedParenthesis
    | [')'], g :: outer =>
      Reader.advance
      readFrom (g.push .repeatable (← closeFrame f)) outer n
    | ['|'], _ =>
      match f.opening, f.branches with
      | .condition _, _ :: _ => Reader.failAt start .tooManyBranches
      | _, _ =>
        Reader.advance
        readFrom f.nextBranch outer n
    | _, _ =>
      Reader.advance
      match ← readToken f start token with
      | (f, none) => readFrom f outer n
      | (f, some inner) => readFrom inner (f :: outer) n

/-- Conditions may ask only for groups that the pattern has. -/
def checkConditions : Reader Unit := do
  let s ← get
  match s.conditions.find? fun c => s.groups < c.1 with
  | some (number, position) => Reader.failAt position (.invalidGroup number)
  | none => return ()

/-- The greatest distance of a look behind. -/
def lookLimit : Nat := 4294967295

/-- A look behind needs a pattern of one width. -/
def checkWidth (w : Width) : Except Fault Unit :=
  if lookLimit < w.low then throw ⟨.farLook, none⟩
  else if w.low ≠ w.high then throw ⟨.variableLook, none⟩
  else return ()

/-- The looks behind in a pattern are checked, outer ones first. -/
def checkLooks : Pattern → Except Fault Unit
  | seq first second => do checkLooks first; checkLooks second
  | either first second => do checkLooks first; checkLooks second
  | repeated _ _ _ body => checkLooks body
  | group _ body => checkLooks body
  | ifGroup _ yes no => do checkLooks yes; checkLooks no
  | atomic body => checkLooks body
  | ahead _ body => checkLooks body
  | behind _ body => do checkWidth body.width; checkLooks body
  | flagged _ _ body => checkLooks body
  | _ => return ()

/-- A whole pattern under its switches. -/
def readWhole : Reader Pattern := do
  let body ← readFrom { opening := .whole } [] ((← get).size + 1)
  checkConditions
  return .flagged (← get).flags [] body

/-- **Reading a pattern.** -/
def read (t : Text) : Except Fault Pattern := do
  if t = ['\\'] then throw ⟨.danglingEscape, some 0⟩
  else
    let pattern ← readWhole.run' { size := t.length, rest := t }
    checkLooks pattern
    return pattern

end LuaAtlas.Pattern
