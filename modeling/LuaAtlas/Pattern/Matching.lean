import LuaAtlas.Pattern.Casing

/-!
# Matching patterns

`Pattern.occursIn` says whether a pattern matches somewhere in a text.  Matching goes on from a
place with a continuation: `matchFrom p` finds the ways in which `p` matches from a place, in the
order of preference, and takes the first one that lets the continuation succeed.

A repetition goes on only if it moved since its last optional round, so it makes at most one round
more than there are characters left, and this bounds its recursion.
-/

namespace LuaAtlas.Pattern

/-- A place in a text, with what the groups matched on the way to it, latest first. -/
structure Place where
  /-- The characters in front of the place, nearest first. -/
  left : Text
  /-- The characters behind the place. -/
  right : Text
  captures : List (Nat × Text) := []

/-- What is still to be matched from a place. -/
abbrev Continuation := Place → Option Place

/-- A way to match from a place on and go on with a continuation. -/
abbrev Matcher := Place → Continuation → Option Place

namespace Place

/-- The place behind the next character, if that is admitted. -/
def step? (p : Place) (admits : Char → Bool) : Option Place :=
  match p.right with
  | c :: cs => if admits c then some { p with left := c :: p.left, right := cs } else none
  | [] => none

/-- The place `n` characters back. -/
def back? : Nat → Place → Option Place
  | 0, p => some p
  | n + 1, p =>
    match p.left with
    | c :: cs => back? n { p with left := cs, right := c :: p.right }
    | [] => none

/-- The place behind the given characters, if they come next. -/
def follow? (same : Char → Char → Bool) : Text → Place → Option Place
  | [], p => some p
  | c :: cs, p => (p.step? (same c)).bind (follow? same cs)

/-- What was matched between an earlier place and this one. -/
def since (p start : Place) : Text := (p.left.take (p.left.length - start.left.length)).reverse

/-- What a group matched is remembered. -/
def capture (p : Place) (number : Nat) (start : Place) : Place :=
  { p with captures := (number, p.since start) :: p.captures }

end Place

/-! ### Anchors -/

/-- Whether a place is the edge of a word. -/
def isWordEdge (f : Flags) (p : Place) : Bool :=
  p.left.head?.any (isWord f) != p.right.head?.any (isWord f)

/-- **Whether an anchor matches at a place.**  In an empty text there are no words, so neither of
the two anchors of words matches. -/
def Anchor.holds (f : Flags) (p : Place) : Anchor → Bool
  | lineStart => p.left.isEmpty || (f.multiline && p.left.head? == some '\n')
  | lineEnd =>
    p.right.isEmpty || p.right == ['\n'] || (f.multiline && p.right.head? == some '\n')
  | textStart => p.left.isEmpty
  | textEnd => p.right.isEmpty
  | wordEdge => !(p.left.isEmpty && p.right.isEmpty) && isWordEdge f p
  | notWordEdge => !(p.left.isEmpty && p.right.isEmpty) && !isWordEdge f p

/-! ### Repetitions -/

/-- Exactly `n` rounds, then the continuation. -/
def exactly (body : Matcher) (k : Continuation) : Nat → Continuation
  | 0 => k
  | n + 1 => fun p => body p (exactly body k n)

/-- Whether a repetition may try another round: it has to have moved since the last one began. -/
def hasMoved (last : Option Nat) (p : Place) : Bool := last != some p.right.length

/-- Up to `n` rounds, as many as possible. -/
def greedily (body : Matcher) (k : Continuation) : Nat → Option Nat → Continuation
  | 0, _ => k
  | n + 1, last => fun p =>
    if hasMoved last p then
      match body p (greedily body k n (some p.right.length)) with
      | some r => some r
      | none => k p
    else k p

/-- Up to `n` rounds, as few as possible. -/
def lazily (body : Matcher) (k : Continuation) : Nat → Option Nat → Continuation
  | 0, _ => k
  | n + 1, last => fun p =>
    match k p with
    | some r => some r
    | none =>
      if hasMoved last p then body p (lazily body k n (some p.right.length)) else none

/-- Up to `n` rounds, each of them the first match of its kind and final. -/
def possessively (body : Matcher) : Nat → Option Nat → Place → Place
  | 0, _, p => p
  | n + 1, last, p =>
    if hasMoved last p then
      match body p some with
      | some q => possessively body n (some p.right.length) q
      | none => p
    else p

/-- Exactly `n` rounds, each of them the first match of its kind and final. -/
def exactlyFirst (body : Matcher) : Nat → Place → Option Place
  | 0, p => some p
  | n + 1, p => (body p some).bind (exactlyFirst body n)

/-- How many optional rounds a repetition may make from a place. -/
def optionalRounds (least : Nat) (most : Option Nat) (p : Place) : Nat :=
  match most with
  | some most => min (most - least) (p.right.length + 1)
  | none => p.right.length + 1

/-- A repetition of a matcher. -/
def repeatMatcher (greed : Greed) (least : Nat) (most : Option Nat) (body : Matcher) : Matcher :=
  fun p k =>
    match greed with
    | .greedy =>
      exactly body (fun q => greedily body k (optionalRounds least most q) none q) least p
    | .lazy => exactly body (fun q => lazily body k (optionalRounds least most q) none q) least p
    | .possessive =>
      (exactlyFirst body least p).bind fun q =>
        k (possessively body (optionalRounds least most q) none q)

/-! ### Matching -/

/-- **Matching a pattern from a place.** -/
def matchFrom : Pattern → Flags → Matcher
  | empty, _ => fun p k => k p
  | code n, f => fun p k => (p.step? (setAdmits f false [.code n])).bind k
  | any, f => fun p k => (p.step? fun c => f.dotAll || c != '\n').bind k
  | set negated items, f => fun p k => (p.step? (setAdmits f negated items)).bind k
  | anchor a, f => fun p k => if a.holds f p then k p else none
  | seq first second, f => fun p k => matchFrom first f p fun q => matchFrom second f q k
  | either first second, f => fun p k =>
    match matchFrom first f p k with
    | some r => some r
    | none => matchFrom second f p k
  | repeated greed least most body, f => repeatMatcher greed least most (matchFrom body f)
  | group number body, f => fun p k => matchFrom body f p fun q => k (q.capture number p)
  | again number _, f => fun p k =>
    match p.captures.lookup number with
    | some t => (p.follow? (sameAgain f) t).bind k
    | none => none
  | ifGroup number yes no, f => fun p k =>
    if (p.captures.lookup number).isSome then matchFrom yes f p k else matchFrom no f p k
  | atomic body, f => fun p k => (matchFrom body f p some).bind k
  | ahead negated body, f => fun p k =>
    match matchFrom body f p some, negated with
    | some q, false => k { p with captures := q.captures }
    | none, true => k p
    | _, _ => none
  | behind negated body, f => fun p k =>
    match (p.back? body.width.low).bind fun q => matchFrom body f q some, negated with
    | some q, false => k { p with captures := q.captures }
    | none, true => k p
    | _, _ => none
  | flagged on off body, f => matchFrom body (f.change on off)

/-- Whether a pattern matches from some place on, the characters in front of it being given. -/
def occursFrom (pattern : Pattern) (left : Text) (right : Text) : Bool :=
  (matchFrom pattern {} { left, right } some).isSome ||
    match right with
    | c :: cs => occursFrom pattern (c :: left) cs
    | [] => false

/-- **Whether a pattern matches somewhere in a text.** -/
def occursIn (pattern : Pattern) (t : Text) : Bool := occursFrom pattern [] t

end LuaAtlas.Pattern
