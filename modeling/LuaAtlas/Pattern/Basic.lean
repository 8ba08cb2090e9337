import LuaAtlas.Text.Basic

/-!
# Search patterns

A search may give a regular expression for the names it wants.  This module holds what such an
expression means once it was read: a tree of alternatives, sequences and repetitions over code
points, with groups, references to groups, looks around the present place and switches.  The width
of a pattern bounds the number of characters that it can match.
-/

namespace LuaAtlas.Pattern

/-- The switches that letters turn on and off. -/
inductive Flag where
  /-- Letters match in upper and lower case. -/
  | ignoreCase
  /-- The anchors of lines match at every line. -/
  | multiline
  /-- The dot matches a line feed too. -/
  | dotAll
  /-- Blanks and comments in the pattern count for nothing. -/
  | verbose
  /-- Classes of characters hold characters below code point 128 only. -/
  | ascii
  /-- Classes of characters hold characters of every script. -/
  | unicode
  /-- Known as a letter, and refused in patterns over texts. -/
  | locale
  /-- Known as a letter, without an effect on matching. -/
  | template
  deriving Repr, DecidableEq

/-- The switch that a letter stands for. -/
def Flag.ofLetter? : Text → Option Flag
  | ['i'] => some ignoreCase
  | ['m'] => some multiline
  | ['s'] => some dotAll
  | ['x'] => some verbose
  | ['a'] => some ascii
  | ['u'] => some unicode
  | ['L'] => some locale
  | ['t'] => some template
  | _ => none

/-- Whether a switch chooses the meaning of the classes of characters; one choice excludes the
others. -/
def Flag.choosesAlphabet : Flag → Bool
  | ascii => true
  | unicode => true
  | locale => true
  | _ => false

/-- The classes of characters that have an escape. -/
inductive Category where
  | digit
  | blank
  | word
  deriving Repr, DecidableEq

/-- An item of a set of characters. -/
inductive SetItem where
  | code (n : Nat)
  | range (low high : Nat)
  | category (category : Category) (negated : Bool)
  deriving Repr, DecidableEq

/-- The places that match without a character. -/
inductive Anchor where
  | lineStart
  | lineEnd
  | textStart
  | textEnd
  | wordEdge
  | notWordEdge
  deriving Repr, DecidableEq

/-- How a repetition chooses its number: as many as possible, as few as possible, or as many as
possible without ever giving one back. -/
inductive Greed where
  | greedy
  | lazy
  | possessive
  deriving Repr, DecidableEq

/-- The least and the greatest number of characters that a pattern matches. -/
structure Width where
  low : Nat
  high : Nat
  deriving Repr, DecidableEq

end Pattern

open Pattern in
/-- A pattern. -/
inductive Pattern where
  /-- The empty text. -/
  | empty
  | code (n : Nat)
  /-- Any character but a line feed. -/
  | any
  | set (negated : Bool) (items : List SetItem)
  | anchor (anchor : Anchor)
  | seq (first second : Pattern)
  | either (first second : Pattern)
  /-- A repetition; without `most` it has no upper bound. -/
  | repeated (greed : Greed) (least : Nat) (most : Option Nat) (body : Pattern)
  /-- A numbered group, which remembers what it matched. -/
  | group (number : Nat) (body : Pattern)
  /-- What the group with a number matched, again; `width` is that of the group. -/
  | again (number : Nat) (width : Width)
  /-- One pattern if the group with a number has matched, else another. -/
  | ifGroup (number : Nat) (yes no : Pattern)
  /-- The first match of a pattern, never another one. -/
  | atomic (body : Pattern)
  /-- A look ahead of the present place. -/
  | ahead (negated : Bool) (body : Pattern)
  /-- A look behind the present place. -/
  | behind (negated : Bool) (body : Pattern)
  /-- A pattern under changed switches. -/
  | flagged (on off : List Flag) (body : Pattern)

namespace Pattern

/-- Widths from this one on are not told apart. -/
def greatestWidth : Nat := Nat.pow 2 64

namespace Width

/-- A width below the greatest one. -/
def capped (low high : Nat) : Width := ⟨min low greatestWidth, min high greatestWidth⟩

/-- The width of two patterns one behind the other. -/
def add (a b : Width) : Width := capped (a.low + b.low) (a.high + b.high)

/-- The width of either of two patterns. -/
def join (a b : Width) : Width := ⟨min a.low b.low, max a.high b.high⟩

/-- The width of a repetition. -/
def times (w : Width) (least : Nat) : Option Nat → Width
  | some most => capped (w.low * least) (w.high * most)
  | none => capped (w.low * least) (if w.high = 0 then 0 else greatestWidth)

end Width

/-- **How many characters a pattern matches.** -/
def width : Pattern → Width
  | empty => ⟨0, 0⟩
  | code _ => ⟨1, 1⟩
  | any => ⟨1, 1⟩
  | set _ _ => ⟨1, 1⟩
  | anchor _ => ⟨0, 0⟩
  | seq first second => first.width.add second.width
  | either first second => first.width.join second.width
  | repeated _ least most body => body.width.times least most
  | group _ body => body.width
  | again _ width => width
  | ifGroup _ yes no => yes.width.join no.width
  | atomic body => body.width
  | ahead _ _ => ⟨0, 0⟩
  | behind _ _ => ⟨0, 0⟩
  | flagged _ _ body => body.width

/-- Patterns one behind the other. -/
def ofList : List Pattern → Pattern
  | [] => empty
  | [p] => p
  | p :: q :: ps => seq p (ofList (q :: ps))

/-- Any one of several patterns, the first that matches. -/
def anyOf : List Pattern → Pattern
  | [] => empty
  | [p] => p
  | p :: q :: ps => either p (anyOf (q :: ps))

end Pattern

end LuaAtlas
