import LuaAtlas.Text.Basic

/-!
# Names

A name is a letter or underscore followed by letters, digits and underscores, all below code point
128.  A dotted name is one or more names with dots between them.  Reading takes the longest name at
the front of a text, and what was read and the rest are the text (`read?_append`,
`readDotted?_append`).
-/

namespace LuaAtlas.Name

/-- The characters that start a name. -/
def isStart (c : Char) : Bool := c.isAlpha || c == '_'

/-- The characters that continue a name. -/
def isRest (c : Char) : Bool := c.isAlphanum || c == '_'

/-- Whether a text is a name. -/
def isName : Text → Bool
  | [] => false
  | c :: cs => isStart c && cs.all isRest

/-- The longest name at the front of a text, and the rest. -/
def read? : Text → Option (Text × Text)
  | [] => none
  | c :: cs =>
    if isStart c then some (c :: cs.takeWhile isRest, cs.dropWhile isRest) else none

/-- What was read and the rest are the text. -/
theorem read?_append {t name rest : Text} (h : read? t = some (name, rest)) :
    name ++ rest = t := by
  cases t with
  | nil => simp [read?] at h
  | cons c cs =>
    simp only [read?] at h
    split at h
    · cases h; simp
    · cases h

/-- The name of a parameter or return value at the front of a text: a name or three dots. -/
def readParam? (t : Text) : Option (Text × Text) :=
  (read? t).or ((Text.after? "...".toList t).map ("...".toList, ·))

/-! ### Dotted names -/

/-- Inside a dotted name: its longest continuation, and the rest.  A dot continues the name when
another name starts right after it. -/
def dottedRest : Text → Text × Text
  | [] => ([], [])
  | '.' :: c :: cs =>
    if isStart c then
      let r := dottedRest (c :: cs)
      ('.' :: r.1, r.2)
    else ([], '.' :: c :: cs)
  | c :: cs =>
    if isRest c then
      let r := dottedRest cs
      (c :: r.1, r.2)
    else ([], c :: cs)

/-- The longest dotted name at the front of a text, and the rest. -/
def readDotted? : Text → Option (Text × Text)
  | [] => none
  | c :: cs =>
    if isStart c then
      let r := dottedRest cs
      some (c :: r.1, r.2)
    else none

/-- A continuation and the rest are the text. -/
theorem dottedRest_append (t : Text) : (dottedRest t).1 ++ (dottedRest t).2 = t := by
  fun_induction dottedRest t with
  | case1 => rfl
  | case2 c cs _ r ih => exact congrArg ('.' :: ·) ih
  | case3 => rfl
  | case4 c cs r _ _ ih => exact congrArg (c :: ·) ih
  | case5 => rfl

/-- What was read as a dotted name and the rest are the text. -/
theorem readDotted?_append {t name rest : Text} (h : readDotted? t = some (name, rest)) :
    name ++ rest = t := by
  cases t with
  | nil => simp [readDotted?] at h
  | cons c cs =>
    simp only [readDotted?] at h
    split at h
    · cases h; simp [dottedRest_append]
    · cases h

/-- Whether a text is a dotted name. -/
def isDotted (t : Text) : Bool :=
  match readDotted? t with
  | some (_, []) => true
  | _ => false

/-- A dotted name parted at its last dot; a name without a dot has no parts. -/
def splitLastDot? (t : Text) : Option (Text × Text) :=
  let last := (t.reverse.takeWhile (· != '.')).reverse
  match t.reverse.dropWhile (· != '.') with
  | [] => none
  | _ :: front => some (front.reverse, last)

end LuaAtlas.Name
