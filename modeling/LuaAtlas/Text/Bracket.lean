import LuaAtlas.Text.Basic

/-!
# Bracket depth

The four kinds of brackets `< ( [ {` raise the depth of what follows by one, and `> ) ] }` lower it
by one; the kinds are not told apart, and the depth may fall below zero.  Two operations depend on
it: cutting a text at a separator that stands at depth zero (`splitTop`), and finding the bracket
that closes what was opened before (`splitClosing`).  Their results give back the text
(`join_splitTop`, `splitClosing_eq_some`).
-/

namespace LuaAtlas.Bracket

/-- The brackets that open. -/
def isOpener (c : Char) : Bool := c == '<' || c == '(' || c == '[' || c == '{'

/-- The brackets that close. -/
def isCloser (c : Char) : Bool := c == '>' || c == ')' || c == ']' || c == '}'

/-- The depth after a character. -/
def step (depth : Int) (c : Char) : Int :=
  if isOpener c then depth + 1 else if isCloser c then depth - 1 else depth

/-- The depth after a text. -/
def depthAfter (depth : Int) (t : Text) : Int := t.foldl step depth

/-! ### Cutting at depth zero -/

/-- A character is put in front of the first part. -/
def consFirst (c : Char) : List Text → List Text
  | [] => [[c]]
  | p :: ps => (c :: p) :: ps

/-- The parts of a text that starts at the given depth. -/
def splitAt (separator : Char) : Int → Text → List Text
  | _, [] => [[]]
  | depth, c :: cs =>
    if isOpener c then consFirst c (splitAt separator (depth + 1) cs)
    else if isCloser c then consFirst c (splitAt separator (depth - 1) cs)
    else if c == separator && depth == 0 then [] :: splitAt separator 0 cs
    else consFirst c (splitAt separator depth cs)

/-- **The parts between top-level separators**: a separator divides only where the brackets before
it are closed.  A bracket as the separator never divides. -/
def splitTop (separator : Char) (t : Text) : List Text := splitAt separator 0 t

/-- As `splitTop`, for a separator written as a text: one of any other length than one occurs
nowhere as a character, so it never divides. -/
def splitTopAt (separator t : Text) : List Text :=
  match separator with
  | [c] => splitTop c t
  | _ => [t]

/-- There is always a first part. -/
theorem splitAt_ne_nil (separator : Char) (depth : Int) (t : Text) :
    splitAt separator depth t ≠ [] := by
  cases t with
  | nil => simp [splitAt]
  | cons c cs =>
    have consFirst_ne (ps : List Text) : consFirst c ps ≠ [] := by cases ps <;> simp [consFirst]
    rw [splitAt]
    repeat' split
    all_goals first | exact consFirst_ne _ | simp

/-- A character in front of the first part is a character in front of the joined parts. -/
theorem join_consFirst (separator : Text) (c : Char) {ps : List Text} (h : ps ≠ []) :
    Text.join separator (consFirst c ps) = c :: Text.join separator ps := by
  match ps, h with
  | [p], _ => rfl
  | p :: q :: ps, _ => rfl

/-- **Nothing is lost**: the parts with the separator between them are the text. -/
theorem join_splitAt (separator : Char) (depth : Int) (t : Text) :
    Text.join [separator] (splitAt separator depth t) = t := by
  induction t generalizing depth with
  | nil => rfl
  | cons c cs ih =>
    have keep (d : Int) :
        Text.join [separator] (consFirst c (splitAt separator d cs)) = c :: cs := by
      rw [join_consFirst _ _ (splitAt_ne_nil separator d cs), ih]
    rw [splitAt]
    repeat' split
    · exact keep _
    · exact keep _
    · rename_i h
      have h' : c = separator := by simpa using (Bool.and_eq_true_iff.1 h).1
      have e := ih 0
      match hp : splitAt separator 0 cs, splitAt_ne_nil separator 0 cs with
      | p :: ps, _ =>
        rw [hp] at e
        simp only [Text.join, List.nil_append, List.singleton_append, e, h']
    · exact keep _

/-- The parts of a top-level cut, joined by the separator, are the text. -/
theorem join_splitTop (separator : Char) (t : Text) :
    Text.join [separator] (splitTop separator t) = t := join_splitAt separator 0 t

/-! ### Closing brackets -/

/-- **The text up to the closing bracket and the text after it.**  The scan starts at the given
depth, and the closing bracket is the first one that brings the depth from one to zero. -/
def splitClosing : Int → Text → Option (Text × Text)
  | _, [] => none
  | depth, c :: cs =>
    if isCloser c && depth == 1 then some ([], cs)
    else (splitClosing (step depth c) cs).map fun r => (c :: r.1, r.2)

/-- The two sides of the closing bracket, with the bracket between them, are the text. -/
theorem splitClosing_eq_some {depth : Int} {t inner rest : Text}
    (h : splitClosing depth t = some (inner, rest)) :
    ∃ c, isCloser c = true ∧ t = inner ++ c :: rest := by
  induction t generalizing depth inner with
  | nil => simp [splitClosing] at h
  | cons c cs ih =>
    rw [splitClosing] at h
    split at h
    · rename_i hc
      simp only [Option.some.injEq, Prod.mk.injEq] at h
      obtain ⟨rfl, rfl⟩ := h
      exact ⟨c, (Bool.and_eq_true_iff.1 hc).1, rfl⟩
    · obtain ⟨⟨i, r⟩, hr, he⟩ := Option.map_eq_some_iff.1 h
      simp only [Prod.mk.injEq] at he
      obtain ⟨rfl, rfl⟩ := he
      obtain ⟨d, hd, rfl⟩ := ih hr
      exact ⟨d, hd, rfl⟩

/-- The position of the bracket that closes the one at `start`.  A negative `start` counts from the
end: the scan then reads the last characters first and the whole text after them. -/
def closingIndex? (t : Text) (start : Int) : Option Int :=
  let scanned :=
    if start < 0 then t.drop (t.length - start.natAbs) ++ t else t.drop start.toNat
  (splitClosing 0 scanned).map fun r => start + r.1.length

end LuaAtlas.Bracket
