/-!
# Texts

Every text of the library is a list of characters, so a position or a length counts code points.
This module fixes which characters are blank and how a text is trimmed, cut into words and cut
into lines.
-/

namespace LuaAtlas

/-- A text is the list of its characters. -/
abbrev Text := List Char

namespace Text

/-- The text as a string, for messages and reports. -/
def str (t : Text) : String := String.ofList t

/-! ### Blank characters -/

/-- The blank characters as inclusive ranges of code points. -/
def blankRanges : List (Nat × Nat) :=
  [(0x9, 0xD), (0x1C, 0x20), (0x85, 0x85), (0xA0, 0xA0), (0x1680, 0x1680), (0x2000, 0x200A),
   (0x2028, 0x2029), (0x202F, 0x202F), (0x205F, 0x205F), (0x3000, 0x3000)]

/-- Whether a code point lies in one of the given inclusive ranges. -/
def inRanges (ranges : List (Nat × Nat)) (n : Nat) : Bool :=
  ranges.any fun r => decide (r.1 ≤ n) && decide (n ≤ r.2)

/-- **Blank** means white space of any script: tabs, line and paragraph separators, the four
information separators and every space character.  The zero width space is not blank. -/
def isBlank (c : Char) : Bool := inRanges blankRanges c.toNat

/-! ### Trimming -/

/-- The text without its leading blanks. -/
def trimLeft (t : Text) : Text := t.dropWhile isBlank

/-- The text without the trailing characters that satisfy `p`. -/
def dropTrailing (p : Char → Bool) (t : Text) : Text := (t.reverse.dropWhile p).reverse

/-- The text without its trailing blanks. -/
def trimRight (t : Text) : Text := dropTrailing isBlank t

/-- The text without its leading and trailing blanks. -/
def trim (t : Text) : Text := trimRight (trimLeft t)

/-- Dropping leading blanks never makes a text longer. -/
theorem length_trimLeft_le (t : Text) : (trimLeft t).length ≤ t.length :=
  (List.dropWhile_sublist _).length_le

/-- Dropping trailing characters never makes a text longer. -/
theorem length_dropTrailing_le (p : Char → Bool) (t : Text) :
    (dropTrailing p t).length ≤ t.length := by
  simpa [dropTrailing] using (List.dropWhile_sublist p (l := t.reverse)).length_le

/-- Trimming never makes a text longer. -/
theorem length_trim_le (t : Text) : (trim t).length ≤ t.length :=
  Nat.le_trans (length_dropTrailing_le _ _) (length_trimLeft_le t)

/-! ### Words, lines and beginnings -/

/-- The maximal runs of characters that are not blank. -/
def words (t : Text) : List Text := (t.splitOnP isBlank).filter (! ·.isEmpty)

/-- **The lines of a text**: it is cut at every line feed, and the carriage returns at the end of a
line are dropped.  A text without a line feed is one line, so there is always a last line. -/
def lines (t : Text) : List Text := (t.splitOn '\n').map (dropTrailing (· == '\r'))

/-- What follows `start` in a text that begins with it. -/
def after? : Text → Text → Option Text
  | [], t => some t
  | _ :: _, [] => none
  | p :: ps, c :: cs => if p = c then after? ps cs else none

/-- A text begins with `start` exactly when it is `start` followed by the rest. -/
theorem after?_eq_some_iff {start t rest : Text} :
    after? start t = some rest ↔ t = start ++ rest := by
  induction start generalizing t with
  | nil => simp [after?]
  | cons p ps ih =>
    cases t with
    | nil => simp [after?]
    | cons c cs =>
      by_cases h : p = c
      · subst h; simp [after?, ih]
      · simp [after?, h, Ne.symm h]

/-- Whether a text begins with `start`. -/
def beginsWith (start t : Text) : Bool := (after? start t).isSome

/-- Whether a text ends with `tail`. -/
def endsWith (tail t : Text) : Bool := beginsWith tail.reverse t.reverse

/-- Whether `part` occurs in a text as consecutive characters. -/
def containsText (part : Text) : Text → Bool
  | [] => part.isEmpty
  | c :: cs => beginsWith part (c :: cs) || containsText part cs

/-- One or more blanks are skipped; without one there is no result. -/
def skipBlanks? : Text → Option Text
  | [] => none
  | c :: cs => if isBlank c then some (trimLeft cs) else none

/-- The given texts with `separator` between each two. -/
def join (separator : Text) : List Text → Text
  | [] => []
  | [t] => t
  | t :: u :: ts => t ++ separator ++ join separator (u :: ts)

/-- The decimal digits of a natural number. -/
def ofNat (n : Nat) : Text := Nat.toDigits 10 n

/-- The decimal digits of an integer, with a minus sign in front of a negative one. -/
def ofInt : Int → Text
  | .ofNat n => ofNat n
  | .negSucc n => '-' :: ofNat (n + 1)

end Text

end LuaAtlas
