import LuaAtlas.Proofs.Catalog.Enumerations
import LuaAtlas.Proofs.Text.Numerals

/-!
# Bit flags

The values of bit flags are shift expressions `a << b` and `a >> b` (`Shift`).  One entry to a line,
all of them are read.  On a single line they are not, since `<` and `>` count as brackets: every
shift moves the depth by two (`Shift.depthAfter_text`), and so the comma behind it stands at another
depth than zero and does not divide.  An entry that shares its part with another one is lost, so of
all entries only the last one can be read, and it is read exactly if the shifts in front of it
cancel each other out (`enumValues_oneLine`).

So the two layouts give the same values only for tables with at most one entry (`ofTexts_flags`).
-/

namespace LuaAtlas

/-! ### Shift expressions -/

namespace Literal

variable {t : Text}

/-- Whether a text is a decimal integer. -/
def isDecimalInteger (t : Text) : Bool := isDigits (unsigned t)

/-- A decimal integer is made of digits with a minus sign in front of them or none. -/
theorem exists_digits (h : isDecimalInteger t = true) :
    ∃ minus digits, t = minus ++ digits ∧ (minus = [] ∨ minus = ['-']) ∧ digits ≠ [] ∧
      ∀ c ∈ digits, Text.isDecimal c = true := by
  have hdigits (ds : Text) (hds : isDigits ds = true) :
      ds ≠ [] ∧ ∀ c ∈ ds, Text.isDecimal c = true := by
    simpa [isDigits] using hds
  unfold isDecimalInteger unsigned at h
  split at h
  · rename_i cs
    exact ⟨['-'], cs, rfl, Or.inr rfl, hdigits cs h⟩
  · exact ⟨[], t, rfl, Or.inl rfl, hdigits t h⟩

theorem mem_decimalInteger (h : isDecimalInteger t = true) {c : Char} (hc : c ∈ t) :
    c = '-' ∨ Text.isDecimal c = true := by
  obtain ⟨minus, digits, rfl, hminus, -, hdigits⟩ := exists_digits h
  rcases List.mem_append.1 hc with hc | hc
  · rcases hminus with rfl | rfl
    · cases hc
    · exact Or.inl (List.mem_singleton.1 hc)
  · exact Or.inr (hdigits c hc)

theorem noDashes_decimalInteger (h : isDecimalInteger t = true) : Text.NoDashes t := by
  obtain ⟨minus, digits, rfl, hminus, -, hdigits⟩ := exists_digits h
  have hne : ∀ c ∈ digits, c ≠ '-' := fun c hc => Text.ne_of_isDecimal (hdigits c hc) (by decide)
  have hhead : digits.head? ≠ some '-' := fun hd => hne _ (List.mem_of_head? hd) rfl
  refine Text.NoDashes.append ?_ (Text.noDashes_of_forall hne) (Or.inr hhead)
  rcases hminus with rfl | rfl
  · exact .nil
  · exact .singleton _

theorem isBlank_decimalInteger (h : isDecimalInteger t = true) {c : Char} (hc : c ∈ t) :
    Text.isBlank c = false := by
  rcases mem_decimalInteger h hc with rfl | hc
  · decide
  · exact Text.isBlank_of_isDecimal hc

theorem decimalInteger_ne_nil (h : isDecimalInteger t = true) : t ≠ [] := by
  rintro rfl
  cases h

end Literal

/-- **A shift expression**: a decimal integer that is shifted by another one, to the left or to the
right. -/
structure Shift where
  left : Text
  toLeft : Bool
  right : Text
  leftDecimal : Literal.isDecimalInteger left = true
  rightDecimal : Literal.isDecimalInteger right = true

namespace Shift

variable (s : Shift)

/-- The sign of a shift with the blanks around it. -/
def sign : Text := if s.toLeft then [' ', '<', '<', ' '] else [' ', '>', '>', ' ']

/-- A shift expression as it is written. -/
def text : Text := s.left ++ (s.sign ++ s.right)

/-- How far a shift moves the depth. -/
def rise : Int := if s.toLeft then 2 else -2

theorem mem_sign {c : Char} (h : c ∈ s.sign) : c = ' ' ∨ c = '<' ∨ c = '>' := by
  unfold sign at h
  split at h <;> simp only [List.mem_cons, List.not_mem_nil] at h <;> tauto

theorem mem_text {c : Char} (h : c ∈ s.text) :
    c = ' ' ∨ c = '<' ∨ c = '>' ∨ c = '-' ∨ Text.isDecimal c = true := by
  rcases List.mem_append.1 h with h | h
  · exact Or.inr (Or.inr (Or.inr (Literal.mem_decimalInteger s.leftDecimal h)))
  · rcases List.mem_append.1 h with h | h
    · rcases s.mem_sign h with h | h | h
      · exact Or.inl h
      · exact Or.inr (Or.inl h)
      · exact Or.inr (Or.inr (Or.inl h))
    · exact Or.inr (Or.inr (Or.inr (Literal.mem_decimalInteger s.rightDecimal h)))

/-- No other character stands in a shift expression. -/
theorem not_mem_text {c : Char} (hdecimal : Text.isDecimal c = false)
    (hsign : c ≠ ' ' ∧ c ≠ '<' ∧ c ≠ '>' ∧ c ≠ '-') : c ∉ s.text := by
  intro hc
  rcases s.mem_text hc with hc | hc | hc | hc | hc
  · exact hsign.1 hc
  · exact hsign.2.1 hc
  · exact hsign.2.2.1 hc
  · exact hsign.2.2.2 hc
  · exact Text.ne_of_isDecimal hc hdecimal rfl

theorem isTrimmed_text : Text.IsTrimmed s.text := by
  have hends {t : Text} (h : Literal.isDecimalInteger t = true) : Text.IsTrimmed t :=
    ⟨fun c hc => Literal.isBlank_decimalInteger h (List.mem_of_head? hc),
      fun c hc => Literal.isBlank_decimalInteger h (List.mem_of_getLast? hc)⟩
  exact (hends s.leftDecimal).append_append (hends s.rightDecimal)
    (Literal.decimalInteger_ne_nil s.leftDecimal) (Literal.decimalInteger_ne_nil s.rightDecimal)

theorem readable_text : EnumTable.Readable s.text where
  visible := by
    have hne := Literal.decimalInteger_ne_nil s.leftDecimal
    obtain ⟨c, cs, hleft⟩ := List.exists_cons_of_ne_nil hne
    have hc : c ∈ s.left := hleft ▸ List.mem_cons_self ..
    exact ⟨c, List.mem_append_left _ hc, Literal.isBlank_decimalInteger s.leftDecimal hc⟩
  noEnd := by
    intro c hc
    by_contra hend
    have hend : ((c == ',') || (c == '{') || (c == '}')) = true := Bool.of_not_eq_false hend
    simp only [Bool.or_eq_true, beq_iff_eq] at hend
    rcases hend with (rfl | rfl) | rfl
    · exact s.not_mem_text (by decide) (by decide) hc
    · exact s.not_mem_text (by decide) (by decide) hc
    · exact s.not_mem_text (by decide) (by decide) hc
  noDashes := by
    have hsign : Text.NoDashes s.sign := Text.noDashes_of_forall fun c hc => by
      rcases s.mem_sign hc with rfl | rfl | rfl <;> decide
    have hlast : s.sign.getLast? = some ' ' := by
      unfold sign
      split <;> rfl
    have hhead : s.sign.head? = some ' ' := by
      unfold sign
      split <;> rfl
    have hright := hsign.append (Literal.noDashes_decimalInteger s.rightDecimal)
      (Or.inl (by rw [hlast]; simp))
    refine (Literal.noDashes_decimalInteger s.leftDecimal).append hright (Or.inr ?_)
    rw [List.head?_append, hhead]
    simp

/-- **A shift moves the depth by two.** -/
theorem depthAfter_text (depth : Int) : Bracket.depthAfter depth s.text = depth + s.rise := by
  have hinteger {t : Text} (h : Literal.isDecimalInteger t = true) (depth : Int) :
      Bracket.depthAfter depth t = depth := by
    refine Bracket.depthAfter_eq_self (fun c hc => ?_) depth
    have hne (d : Char) (hd : Text.isDecimal d = false) (hdash : d ≠ '-') : (c == d) = false := by
      refine beq_eq_false_iff_ne.2 ?_
      rcases Literal.mem_decimalInteger h hc with rfl | hc
      · exact hdash.symm
      · exact Text.ne_of_isDecimal hc hd
    simp [Bracket.isOpener, Bracket.isCloser, hne '<' (by decide) (by decide),
      hne '(' (by decide) (by decide), hne '[' (by decide) (by decide),
      hne '{' (by decide) (by decide), hne '>' (by decide) (by decide),
      hne ')' (by decide) (by decide), hne ']' (by decide) (by decide),
      hne '}' (by decide) (by decide)]
  have hsign (depth : Int) : Bracket.depthAfter depth s.sign = depth + s.rise := by
    unfold sign rise
    split
    · show depth + 1 + 1 = depth + 2
      omega
    · show depth - 1 - 1 = depth + -2
      omega
  rw [text, Bracket.depthAfter_append, Bracket.depthAfter_append, hinteger s.leftDecimal, hsign,
    hinteger s.rightDecimal]

end Shift

/-! ### Flags on one line -/

/-- A bit flag: a key and the shift that is its value. -/
structure Flag where
  key : EnumTable.Key
  shift : Shift

namespace Flag

variable (f : Flag)

/-- The entry of a table that a flag is. -/
def entry : EnumTable.Entry := ⟨f.key, f.shift.text⟩

/-- The name and the value of a flag. -/
def pair : Text × Text := (f.key.name, f.shift.text)

theorem pair_entry : f.entry.pair = f.pair := by
  show (f.key.name, Text.trim f.shift.text) = _
  rw [Text.trim_eq_self f.shift.isTrimmed_text]
  rfl

/-- The flags of a table on one line, behind its opening brace. -/
def inside (flags : List Flag) : Text :=
  Text.join [','] (flags.map fun f => ' ' :: f.entry.text) ++ [' ']

/-- How far flags move the depth. -/
def rise : List Flag → Int
  | [] => 0
  | f :: flags => f.shift.rise + rise flags

/-- **The flags that are read from one line** at the given depth: the last one, if the others bring
the depth back to zero. -/
def kept (depth : Int) (flags : List Flag) : List Flag :=
  if depth + rise flags.dropLast = 0 then flags.getLast?.toList else []

theorem kept_cons_cons (depth : Int) (f g : Flag) (flags : List Flag) :
    kept depth (f :: g :: flags) = kept (depth + f.shift.rise) (g :: flags) := by
  simp only [kept, rise, List.dropLast_cons_cons, List.getLast?_cons_cons, Int.add_assoc]

theorem isBlank_replicate (indent : Nat) :
    ∀ c ∈ List.replicate indent ' ', Text.isBlank c = true := by
  intro c hc
  rw [List.eq_of_mem_replicate hc]
  decide

/-- A text from which no entry is read, whatever entry follows it. -/
def Spoils (front : Text) : Prop :=
  ∀ (e : EnumTable.Entry) (rest : Text), Tag.entry? (front ++ ' ' :: (e.text ++ rest)) = none

/-- A flag with a comma behind it spoils its part. -/
theorem spoils_text : Spoils (' ' :: (f.entry.text ++ [','])) := by
  intro e rest
  obtain ⟨c, cs, hkey, hblank, hdash, -⟩ := e.key.exists_text_cons
  have hindent : ∀ c ∈ [' '], Text.isBlank c = true := isBlank_replicate 1
  have hmore : Tag.afterComma? (Text.trimLeft (' ' :: (e.text ++ rest))) = none := by
    show Tag.afterComma? (Text.trimLeft (e.text ++ rest)) = none
    rw [EnumTable.Entry.text, hkey, List.cons_append, List.cons_append, Text.trimLeft_cons hblank]
    exact EnumTable.afterComma?_cons (Or.inl hdash)
  have hnone := f.entry.entry?_text_comma f.shift.readable_text hindent hmore
  simpa using hnone

theorem Spoils.append {front : Text} (h : Spoils front) :
    Spoils (front ++ ' ' :: (f.entry.text ++ [','])) := by
  intro e rest
  have hnone := h f.entry (',' :: ' ' :: (e.text ++ rest))
  simpa using hnone

/-- A cut at commas passes over a flag. -/
theorem splitAt_append {depth : Int} (heven : depth % 2 = 0) (rest : Text) :
    Bracket.splitAt ',' depth (' ' :: (f.entry.text ++ rest)) =
      Bracket.prependFirst (' ' :: f.entry.text)
        (Bracket.splitAt ',' (depth + f.shift.rise) rest) := by
  have hindent : ∀ c ∈ [' '], Text.isBlank c = true := isBlank_replicate 1
  have hdepth : depth ≠ -1 := by
    rintro rfl
    cases heven
  have hcut := f.entry.splitAt_append hindent (f.shift.readable_text.not_mem rfl) hdepth rest
  rw [show Bracket.depthAfter depth f.entry.value = _ from f.shift.depthAfter_text depth] at hcut
  exact hcut

theorem rise_ne_zero : f.shift.rise ≠ 0 ∧ f.shift.rise % 2 = 0 := by
  unfold Shift.rise
  split <;> decide

/-- **The parts of a line of flags.**  In front of them stands what was not cut off so far: nothing
at depth zero, and at any other depth a text that spoils its part. -/
theorem filterMap_splitAt (line : Nat) (flags : List Flag) {d : Int} (heven : d % 2 = 0)
    {t : Text} (hzero : d = 0 → t = []) (hdeep : d ≠ 0 → Spoils t) :
    (Bracket.prependFirst t (Bracket.splitAt ',' d (inside (f :: flags)))).filterMap
        (Declaration.valueIn? line) =
      (kept d (f :: flags)).map fun f => Declaration.valueAt line f.pair := by
  have hindent : ∀ c ∈ [' '], Text.isBlank c = true := isBlank_replicate 1
  -- the invariant on `t` goes from flag to flag; no depth is odd, so no key is cut
  induction flags generalizing f d t with
  | nil =>
    have hinside : inside [f] = ' ' :: (f.entry.text ++ [' ']) := by simp [inside, Text.join]
    have hpiece : Bracket.prependFirst t (Bracket.splitAt ',' d (inside [f])) =
        [t ++ ' ' :: (f.entry.text ++ [' '])] := by
      rw [hinside, f.splitAt_append heven, Bracket.splitAt_eq_self (by decide)]
      simp [Bracket.prependFirst]
    rw [hpiece]
    by_cases hdepth : d = 0
    · have hread := f.entry.valueIn?_text f.shift.readable_text hindent line (t := [' ']) rfl
        (by decide)
      rw [List.singleton_append, f.pair_entry] at hread
      simp [hzero hdepth, hread, kept, rise, hdepth]
    · have hnone : Declaration.valueIn? line (t ++ ' ' :: (f.entry.text ++ [' '])) = none := by
        rw [Declaration.valueIn?, hdeep hdepth]
        rfl
      simp [hnone, kept, rise, hdepth]
  | cons g flags ih =>
    obtain ⟨hrise, hrise'⟩ := f.rise_ne_zero
    have hinside : inside (f :: g :: flags) =
        ' ' :: (f.entry.text ++ ',' :: inside (g :: flags)) := by
      simp [inside, Text.join]
    have heven' : (d + f.shift.rise) % 2 = 0 := by omega
    rw [kept_cons_cons, hinside, f.splitAt_append heven]
    by_cases hnext : d + f.shift.rise = 0
    · -- the comma divides, and the part in front of it is spoilt
      have hdepth : d ≠ 0 := by omega
      have hnone : Declaration.valueIn? line (t ++ ' ' :: f.entry.text) = none := by
        have hread := hdeep hdepth f.entry []
        rw [List.append_nil] at hread
        rw [Declaration.valueIn?, hread]
        rfl
      have hbelow := ih g heven' (t := []) (fun _ => rfl) (absurd hnext)
      rw [Bracket.prependFirst_nil (Bracket.splitAt_ne_nil _ _ _), hnext] at hbelow
      rw [hnext, Bracket.splitAt_separator rfl rfl]
      simp only [Bracket.prependFirst, List.append_nil, List.filterMap_cons, hnone]
      exact hbelow
    · -- the comma stays in the part
      have hspoils : Spoils (t ++ ' ' :: (f.entry.text ++ [','])) := by
        by_cases hdepth : d = 0
        · rw [hzero hdepth]
          exact f.spoils_text
        · exact (hdeep hdepth).append f
      have hbelow := ih g heven' (fun h => absurd h hnext) (fun _ => hspoils)
      have happend : t ++ ' ' :: f.entry.text ++ [','] = t ++ ' ' :: (f.entry.text ++ [',']) := by
        simp
      rw [Bracket.prependFirst_append _ _ (Bracket.splitAt_ne_nil _ _ _),
        Bracket.prependFirst_splitAt_cons fun h => hnext h.2, happend]
      exact hbelow

/-- **Of the flags on one line only the last one is read**, and only if the shifts in front of it
cancel each other out. -/
theorem enumValues_oneLine (line : Nat) (flags : List Flag) :
    Declaration.enumValues line (inside flags) =
      (kept 0 flags).map fun f => Declaration.valueAt line f.pair := by
  cases flags with
  | nil => rfl
  | cons f flags =>
    have hparts := f.filterMap_splitAt line flags (d := 0) rfl (t := []) (fun _ => rfl)
      (fun h => absurd rfl h)
    rw [Bracket.prependFirst_nil (Bracket.splitAt_ne_nil _ _ _)] at hparts
    exact hparts

theorem noDashes_inside (flags : List Flag) : Text.NoDashes (inside flags) := by
  have hindent : ∀ c ∈ [' '], Text.isBlank c = true := isBlank_replicate 1
  have hflags : Text.NoDashes (Text.join [','] (flags.map fun f => ' ' :: f.entry.text)) := by
    refine Text.noDashes_join fun t ht => ?_
    obtain ⟨f, -, rfl⟩ := List.mem_map.1 ht
    exact f.entry.noDashes_text f.shift.readable_text hindent
  exact hflags.append (.singleton _) (Or.inr (by decide))

/-- No flag breaks its line or closes the table. -/
theorem of_mem_text {c : Char} (h : c ∈ f.entry.text) : Text.isLineBreak c = false ∧ c ≠ '}' := by
  rcases List.mem_append.1 h with h | h
  · rcases f.key.mem_text h with hplain | rfl | rfl | rfl
    · exact ⟨EnumTable.isLineBreak_of_isPlain hplain, EnumTable.ne_of_isPlain hplain (by decide)⟩
    · decide
    · decide
    · decide
  · have hshift : ∀ d ∈ f.shift.text, Text.isLineBreak d = false ∧ d ≠ '}' := by
      intro d hd
      rcases f.shift.mem_text hd with rfl | rfl | rfl | rfl | hd
      · decide
      · decide
      · decide
      · decide
      · have hne (e : Char) (he : Text.isDecimal e = false) : d ≠ e := Text.ne_of_isDecimal hd he
        simp [Text.isLineBreak, hne '\n' (by decide), hne '\r' (by decide), hne '}' (by decide)]
    simp only [List.mem_cons] at h
    rcases h with rfl | rfl | rfl | h
    · decide
    · decide
    · decide
    · exact hshift c h

theorem of_mem_inside {flags : List Flag} {c : Char} (h : c ∈ inside flags) :
    Text.isLineBreak c = false ∧ c ≠ '}' := by
  rcases List.mem_append.1 h with h | h
  · rcases Text.mem_join h with h | ⟨_, ht, h⟩
    · rw [List.mem_singleton.1 h]
      decide
    · obtain ⟨f, -, rfl⟩ := List.mem_map.1 ht
      rcases List.mem_cons.1 h with rfl | h
      · decide
      · exact f.of_mem_text h
  · rw [List.mem_singleton.1 h]
    decide

theorem ends_oneLine (flags : List Flag) :
    Declaration.Ends (inside flags ++ ['}']) ((kept 0 flags).map pair) := by
  have hdashes : Text.NoDashes (inside flags ++ ['}']) :=
    (noDashes_inside flags).append (.singleton _) (Or.inr (by decide))
  have hpass : ∀ c ∈ inside flags, (c != '}') = true :=
    fun c hc => bne_iff_ne.2 (of_mem_inside hc).2
  have htake : (inside flags ++ ['}']).takeWhile (· != '}') = inside flags := by
    rw [List.takeWhile_append_of_pos hpass]
    simp
  constructor
  · rw [Declaration.beforeComment_eq_self hdashes]
    simp
  · intro line
    rw [Declaration.beforeComment_eq_self hdashes, htake, enumValues_oneLine, List.map_map]
    rfl

/-- The line of a flag that has it for itself. -/
def line (indent : Nat) (comma : Bool) : Text :=
  List.replicate indent ' ' ++ (f.entry.text ++ if comma then [','] else [])

theorem holds_line (indent : Nat) (comma : Bool) :
    Declaration.Holds (f.line indent comma) [f.pair] := by
  rw [← f.pair_entry]
  exact f.entry.holds_text f.shift.readable_text (isBlank_replicate indent) comma

theorem isMarkerLine_line (indent : Nat) (comma : Bool) :
    isMarkerLine (f.line indent comma) = false :=
  f.entry.isMarkerLine_text (isBlank_replicate indent) _

theorem isLineBreak_of_mem_line {indent : Nat} {comma : Bool} {c : Char}
    (h : c ∈ f.line indent comma) : Text.isLineBreak c = false := by
  rcases List.mem_append.1 h with h | h
  · rw [List.eq_of_mem_replicate h]
    decide
  · rcases List.mem_append.1 h with h | h
    · exact (f.of_mem_text h).1
    · cases comma
      · cases h
      · rw [List.mem_singleton.1 h]
        decide

end Flag

/-! ### Tables of flags -/

/-- A table of bit flags. -/
structure FlagTable where
  name : Text
  isDotted : Name.isDotted name = true
  flags : List Flag

namespace FlagTable

variable (t : FlagTable)

/-- **The table on one line.** -/
def oneLine : Text :=
  Text.ofLines [EnumTable.headline t.name,
    EnumTable.opening t.name ++ ['{'] ++ (Flag.inside t.flags ++ ['}'])] 0

/-- The lines of flags with one to a line. -/
def flagLines (indent : Nat) (trailing : Bool) : List Flag → List Text
  | [] => []
  | [f] => [f.line indent trailing]
  | f :: g :: flags => f.line indent true :: flagLines indent trailing (g :: flags)

/-- **The table with one flag to a line.**  The comma behind the last one may be missing. -/
def listed (indent : Nat) (trailing : Bool) : Text :=
  Text.ofLines (EnumTable.headline t.name :: (EnumTable.opening t.name ++ ['{']) ::
    (flagLines indent trailing t.flags ++ [['}']])) 0

theorem of_mem_flagLines {indent : Nat} {trailing : Bool} {flags : List Flag} {line : Text}
    (h : line ∈ flagLines indent trailing flags) :
    ∃ f : Flag, ∃ comma, line = f.line indent comma := by
  fun_induction flagLines indent trailing flags with
  | case1 => cases h
  | case2 f => exact ⟨f, trailing, List.mem_singleton.1 h⟩
  | case3 f g flags ih =>
    rcases List.mem_cons.1 h with rfl | h
    · exact ⟨f, true, rfl⟩
    · exact ih h

theorem holds_flagLines (indent : Nat) (trailing : Bool) (flags : List Flag) :
    List.Forall₂ Declaration.Holds (flagLines indent trailing flags)
      (flags.map fun f => [f.pair]) := by
  fun_induction flagLines indent trailing flags with
  | case1 => exact .nil
  | case2 f => exact .cons (f.holds_line indent trailing) .nil
  | case3 f g flags ih => exact .cons (f.holds_line indent true) ih

/-- The line with the opening brace, whatever else it holds. -/
theorem opening_spec {rest : Text} (h : ∀ c ∈ rest, Text.isLineBreak c = false) :
    isMarkerLine (EnumTable.opening t.name ++ ['{'] ++ rest) = false ∧
      '\n' ∉ EnumTable.opening t.name ++ ['{'] ++ rest ∧
      (EnumTable.opening t.name ++ ['{'] ++ rest).getLast? ≠ some '\r' := by
  refine ⟨?_, Text.clean_of_isLineBreak fun c hc => ?_⟩
  · rw [List.append_assoc]
    exact EnumTable.isMarkerLine_opening t.isDotted _
  · rcases List.mem_append.1 hc with hc | hc
    · rcases List.mem_append.1 hc with hc | hc
      · exact (EnumTable.of_mem_opening t.isDotted c hc).1
      · rw [List.mem_singleton.1 hc]
        decide
    · exact h c hc

theorem not_mem_opening : '{' ∉ EnumTable.opening t.name :=
  fun h => (EnumTable.of_mem_opening t.isDotted _ h).2 rfl

theorem ofLines_oneLine :
    Declaration.ofLines (Text.lines t.oneLine) =
      [.enumDecl 1 2 t.name (Declaration.valuesFrom 2 [(Flag.kept 0 t.flags).map Flag.pair])
        .closed] := by
  refine EnumTable.ofLines_table t.isDotted t.not_mem_opening .nil (Flag.ends_oneLine t.flags) ?_
  intro line hline
  rw [List.mem_singleton.1 hline]
  refine t.opening_spec fun c hc => ?_
  rcases List.mem_append.1 hc with hc | hc
  · exact (Flag.of_mem_inside hc).1
  · rw [List.mem_singleton.1 hc]
    decide

theorem ofLines_listed (indent : Nat) (trailing : Bool) :
    Declaration.ofLines (Text.lines (t.listed indent trailing)) =
      [.enumDecl 1 ((flagLines indent trailing t.flags).length + 3) t.name
        (Declaration.valuesFrom 2 ([] :: (t.flags.map fun f => [f.pair]) ++ [[]])) .closed] := by
  have hholds := List.Forall₂.cons EnumTable.holds_nil (holds_flagLines indent trailing t.flags)
  have htable := EnumTable.ofLines_table t.isDotted t.not_mem_opening hholds EnumTable.ends_brace
  have hfirst : EnumTable.opening t.name ++ ['{'] ++ [] = EnumTable.opening t.name ++ ['{'] :=
    List.append_nil _
  simp only [List.cons_append, Bracket.prependFirst, hfirst] at htable
  refine htable fun line hline => ?_
  rcases List.mem_cons.1 hline with rfl | hline
  · rw [← hfirst]
    exact t.opening_spec (by simp)
  · rcases List.mem_append.1 hline with hline | hline
    · obtain ⟨f, comma, rfl⟩ := of_mem_flagLines hline
      exact ⟨f.isMarkerLine_line indent comma,
        Text.clean_of_isLineBreak fun c hc => f.isLineBreak_of_mem_line hc⟩
    · rw [List.mem_singleton.1 hline]
      decide

end FlagTable

namespace Catalog

open FlagTable

/-- **Bit flags depend on the layout.**  With one flag to a line all of them are read, in order and
with their values.  On a single line only the last one is read, and only if the shifts in front of
it bring the depth back to zero; so the two layouts give the same values exactly if the table has at
most one flag. -/
theorem ofTexts_flags (v : Vocabulary) (t : FlagTable) (indent : Nat) (trailing : Bool) :
    ∃ listed oneLine,
      (ofTexts v [t.listed indent trailing]).symbols = [listed] ∧
      (ofTexts v [t.oneLine]).symbols = [oneLine] ∧
      listed.values.map Member.pair =
        t.flags.map (fun f => (f.key.name, some f.shift.text)) ∧
      oneLine.values.map Member.pair =
        (Flag.kept 0 t.flags).map (fun f => (f.key.name, some f.shift.text)) ∧
      (oneLine.values.map Member.pair = listed.values.map Member.pair ↔ t.flags.length ≤ 1) := by
  obtain ⟨listed, hlisted, -, -, hall⟩ :=
    ofTexts_valuesFrom v (f := Member.pair) (g := fun p => (p.1, some p.2)) (fun _ _ => rfl)
      (t.ofLines_listed indent trailing)
  obtain ⟨oneLine, honeLine, -, -, hkept⟩ :=
    ofTexts_valuesFrom v (f := Member.pair) (g := fun p => (p.1, some p.2)) (fun _ _ => rfl)
      t.ofLines_oneLine
  have hall' : listed.values.map Member.pair =
      t.flags.map (fun f => (f.key.name, some f.shift.text)) := by
    rw [hall, Declaration.flatten_singletons, List.map_map]
    rfl
  have hkept' : oneLine.values.map Member.pair =
      (Flag.kept 0 t.flags).map (fun f => (f.key.name, some f.shift.text)) := by
    rw [hkept, List.flatten_singleton, List.map_map]
    rfl
  refine ⟨listed, oneLine, hlisted, honeLine, hall', hkept', ?_⟩
  rw [hall', hkept']
  constructor
  · intro he
    -- at most one flag is kept, so the lengths tell
    have hlength := congrArg List.length he
    have hone : (Flag.kept 0 t.flags).length ≤ 1 := by
      unfold Flag.kept
      split
      · cases t.flags.getLast? <;> simp
      · simp
    rw [List.length_map, List.length_map] at hlength
    omega
  · intro hlength
    rcases hflags : t.flags with _ | ⟨f, _ | ⟨g, flags⟩⟩
    · rfl
    · rfl
    · rw [hflags] at hlength
      simp at hlength

/-- A table of three flags, of which the first two shift in opposite directions. -/
def threeFlags : FlagTable where
  name := "Bits".toList
  isDotted := by decide
  flags := [⟨.bare "Read".toList (by decide), ⟨['1'], true, ['4'], by decide, by decide⟩⟩,
    ⟨.bare "Write".toList (by decide), ⟨['8'], false, ['1'], by decide, by decide⟩⟩,
    ⟨.quoted "c d".toList (by decide) (by simp; decide) (by decide),
      ⟨['-', '1'], true, ['2'], by decide, by decide⟩⟩]

/-- Of three flags on one line the last one is read. -/
theorem ofTexts_flags_three :
    let lines :=
      "---@enum Bits\nBits = \x7b\n  Read = 1 << 4,\n  Write = 8 >> 1,\n  [\"c d\"] = -1 << 2\n\x7d"
    let line := "---@enum Bits\nBits = \x7b Read = 1 << 4, Write = 8 >> 1, [\"c d\"] = -1 << 2 \x7d"
    ∃ listed oneLine,
      (ofTexts .standard [lines.toList]).symbols = [listed] ∧
      (ofTexts .standard [line.toList]).symbols = [oneLine] ∧
      listed.values.map Member.pair =
        [("Read".toList, some "1 << 4".toList), ("Write".toList, some "8 >> 1".toList),
          ("c d".toList, some "-1 << 2".toList)] ∧
      oneLine.values.map Member.pair = [("c d".toList, some "-1 << 2".toList)] := by
  intro lines line
  have hlisted : threeFlags.listed 2 false = lines.toList := by decide
  have honeLine : threeFlags.oneLine = line.toList := by decide
  obtain ⟨listed, oneLine, hsymbols, hsymbol, hall, hkept, -⟩ :=
    ofTexts_flags .standard threeFlags 2 false
  rw [hlisted] at hsymbols
  rw [honeLine] at hsymbol
  exact ⟨listed, oneLine, hsymbols, hsymbol, hall, hkept⟩

/-- Two flags on one line are both lost. -/
theorem flags_lost_on_one_line :
    (ofTexts .standard ["---@enum E\nE = \x7b A = 1 << 0, B = 1 << 1 \x7d".toList]).enumValues.map
        Member.pair = [] ∧
      (ofTexts .standard
          ["---@enum E\nE = \x7b\n  A = 1 << 0,\n  B = 1 << 1,\n\x7d".toList]).enumValues.map
        Member.pair =
        [("A".toList, some "1 << 0".toList), ("B".toList, some "1 << 1".toList)] := by
  decide +kernel

end Catalog

end LuaAtlas
