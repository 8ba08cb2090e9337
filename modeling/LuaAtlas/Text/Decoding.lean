import LuaAtlas.Text.Basic

/-!
# From octets to text

Files hold octets.  `decode` reads them as UTF-8 one octet at a time; where they are not UTF-8, each
longest beginning of a character that cannot go on becomes one replacement character, and so does an
octet that begins no character.  `unifyNewlines` then lets every line end in a single line feed.
-/

namespace LuaAtlas.Text

/-- A character begun and not finished: how many octets it still needs, the bounds of the next one,
and the bits read so far. -/
structure Pending where
  owed : Nat
  low : Nat
  high : Nat
  bits : Nat

/-- The decoder between two octets: the unfinished character, if any, and the characters read so
far, latest first. -/
structure Decoder where
  pending : Option Pending := none
  output : List Char := []

/-- The replacement for what is no character. -/
def replacement : Char := '\uFFFD'

/-- An octet where a character begins. -/
def Decoder.start (output : List Char) (b : Nat) : Decoder :=
  if b < 0x80 then ⟨none, Char.ofNat b :: output⟩
  else if b < 0xC2 then ⟨none, replacement :: output⟩
  else if b < 0xE0 then ⟨some ⟨1, 0x80, 0xBF, b - 0xC0⟩, output⟩
  else if b = 0xE0 then ⟨some ⟨2, 0xA0, 0xBF, 0⟩, output⟩
  else if b = 0xED then ⟨some ⟨2, 0x80, 0x9F, 0xD⟩, output⟩
  else if b < 0xF0 then ⟨some ⟨2, 0x80, 0xBF, b - 0xE0⟩, output⟩
  else if b = 0xF0 then ⟨some ⟨3, 0x90, 0xBF, 0⟩, output⟩
  else if b < 0xF4 then ⟨some ⟨3, 0x80, 0xBF, b - 0xF0⟩, output⟩
  else if b = 0xF4 then ⟨some ⟨3, 0x80, 0x8F, 4⟩, output⟩
  else ⟨none, replacement :: output⟩

/-- The decoder after one more octet.  An octet that cannot continue the unfinished character ends
it with a replacement and is then read as the beginning of the next. -/
def Decoder.step (d : Decoder) (octet : UInt8) : Decoder :=
  let b := octet.toNat
  match d.pending with
  | none => start d.output b
  | some p =>
    if p.low ≤ b && b ≤ p.high then
      let bits := p.bits * 64 + (b - 0x80)
      if p.owed ≤ 1 then ⟨none, Char.ofNat bits :: d.output⟩
      else ⟨some ⟨p.owed - 1, 0x80, 0xBF, bits⟩, d.output⟩
    else start (replacement :: d.output) b

/-- The text read so far; a character that the octets leave unfinished is replaced. -/
def Decoder.finish (d : Decoder) : Text :=
  match d.pending with
  | none => d.output.reverse
  | some _ => (replacement :: d.output).reverse

/-- **The text that octets spell in UTF-8**, with replacements where they spell none. -/
def decode (octets : List UInt8) : Text := (octets.foldl Decoder.step {}).finish

/-- The text with `read` in front, latest first, and single line feeds from there on. -/
def unifyNewlinesFrom (read : Text) : Text → Text
  | [] => read.reverse
  | '\r' :: '\n' :: cs => unifyNewlinesFrom ('\n' :: read) cs
  | c :: cs => unifyNewlinesFrom ((if c == '\r' then '\n' else c) :: read) cs

/-- **One way to end a line**: a carriage return, alone or with a line feed after it, becomes a line
feed. -/
def unifyNewlines (t : Text) : Text := unifyNewlinesFrom [] t

end LuaAtlas.Text
