import LuaAtlas.Literal
import LuaAtlas.Name
import LuaAtlas.Proofs.Text.Nesting

/-!
# Names in front of other text

A dotted name is read as a whole wherever it stands in front of a text that cannot go on with it
(`readDotted?_append`).  No character of a name is blank or a bracket, so a name is a nested text
(`nested_of_isDotted`), and a name other than a truth value is no literal
(`isLiteral_of_isDotted`).
-/

namespace LuaAtlas.Name

/-! ### The characters of names -/

theorem isRest_of_isStart {c : Char} (h : isStart c = true) : isRest c = true := by
  rw [isStart, Bool.or_eq_true] at h
  rw [isRest, Bool.or_eq_true]
  rcases h with h | h
  · exact Or.inl (Bool.or_eq_true_iff.2 (Or.inl h))
  · exact Or.inr h

/-- The ASCII letters. -/
theorem toNat_of_isAlpha {c : Char} (h : c.isAlpha = true) :
    (65 ≤ c.toNat ∧ c.toNat ≤ 90) ∨ (97 ≤ c.toNat ∧ c.toNat ≤ 122) := by
  rcases Bool.or_eq_true_iff.1 h with hupper | hlower
  · have hle : c.val ≥ 'A'.val ∧ c.val ≤ 'Z'.val := of_decide_eq_true hupper
    exact Or.inl hle
  · obtain ⟨hlo, hhi⟩ := Bool.and_eq_true_iff.1 hlower
    have hle : c.val ≥ 'a'.val ∧ c.val ≤ 'z'.val := ⟨of_decide_eq_true hlo, of_decide_eq_true hhi⟩
    exact Or.inr hle

/-- The characters of names are ASCII letters, digits and the underscore. -/
theorem toNat_of_isRest {c : Char} (h : isRest c = true) :
    (48 ≤ c.toNat ∧ c.toNat ≤ 57) ∨ (65 ≤ c.toNat ∧ c.toNat ≤ 90) ∨ c.toNat = 95 ∨
      (97 ≤ c.toNat ∧ c.toNat ≤ 122) := by
  rw [isRest, Bool.or_eq_true, beq_iff_eq] at h
  rcases h with h | rfl
  · rcases Bool.or_eq_true_iff.1 h with halpha | hdigit
    · have hletter := toNat_of_isAlpha halpha
      omega
    · obtain ⟨hlo, hhi⟩ := Bool.and_eq_true_iff.1 hdigit
      have hle : c.val ≥ '0'.val ∧ c.val ≤ '9'.val := ⟨of_decide_eq_true hlo, of_decide_eq_true hhi⟩
      exact Or.inl hle
  · decide

/-- A name does not start with a digit. -/
theorem toNat_of_isStart {c : Char} (h : isStart c = true) : 65 ≤ c.toNat ∧ c.toNat ≤ 122 := by
  rw [isStart, Bool.or_eq_true, beq_iff_eq] at h
  rcases h with halpha | rfl
  · have hletter := toNat_of_isAlpha halpha
    omega
  · decide

theorem isBlank_of_isRest {c : Char} (h : isRest c = true) : Text.isBlank c = false := by
  have := toNat_of_isRest h
  simp only [Text.isBlank, Text.inRanges, Text.blankRanges, List.any_cons, List.any_nil,
    Bool.or_false, Bool.or_eq_false_iff, Bool.and_eq_false_iff, decide_eq_false_iff_not]
  omega

theorem ne_of_isRest {c d : Char} (h : isRest c = true) (hd : isRest d = false) : c ≠ d := by
  rintro rfl
  rw [h] at hd
  cases hd

/-- The characters of dotted names: those of names, and the dot. -/
def IsDottedChar (c : Char) : Prop := isRest c = true ∨ c = '.'

theorem ne_of_isDottedChar {c d : Char} (h : IsDottedChar c) (hd : isRest d = false)
    (hdot : d ≠ '.') : c ≠ d := by
  rcases h with h | rfl
  · exact ne_of_isRest h hd
  · exact hdot.symm

theorem isOpener_of_isDottedChar {c : Char} (h : IsDottedChar c) :
    Bracket.isOpener c = false := by
  have hne (d : Char) (hd : isRest d = false) (hdot : d ≠ '.') : (c == d) = false :=
    beq_eq_false_iff_ne.2 (ne_of_isDottedChar h hd hdot)
  rw [Bracket.isOpener, hne '<' (by decide) (by decide), hne '(' (by decide) (by decide),
    hne '[' (by decide) (by decide), hne '{' (by decide) (by decide)]
  rfl

theorem isCloser_of_isDottedChar {c : Char} (h : IsDottedChar c) :
    Bracket.isCloser c = false := by
  have hne (d : Char) (hd : isRest d = false) (hdot : d ≠ '.') : (c == d) = false :=
    beq_eq_false_iff_ne.2 (ne_of_isDottedChar h hd hdot)
  rw [Bracket.isCloser, hne '>' (by decide) (by decide), hne ')' (by decide) (by decide),
    hne ']' (by decide) (by decide), hne '}' (by decide) (by decide)]
  rfl

theorem isBlank_of_isDottedChar {c : Char} (h : IsDottedChar c) : Text.isBlank c = false := by
  rcases h with h | rfl
  · exact isBlank_of_isRest h
  · decide

/-! ### Names -/

/-- **A name is read as a whole** in front of any text that cannot go on with it. -/
theorem read?_append_of_isName {name rest : Text} (h : isName name = true)
    (hr : ∀ c, rest.head? = some c → isRest c = false) :
    read? (name ++ rest) = some (name, rest) := by
  cases name with
  | nil => cases h
  | cons c cs =>
    rw [isName, Bool.and_eq_true, List.all_eq_true] at h
    have hstop : rest.takeWhile isRest = [] ∧ rest.dropWhile isRest = rest := by
      cases rest with
      | nil => exact ⟨rfl, rfl⟩
      | cons d ds => simp [hr d rfl]
    rw [List.cons_append, read?, List.takeWhile_append_of_pos h.2,
      List.dropWhile_append_of_pos h.2, hstop.1, hstop.2, List.append_nil]
    simp [h.1]

/-! ### Dotted names -/

/-- The last character of a text with a character of a name in front. -/
theorem isRest_getLast?_cons {c : Char} {t : Text} (hc : isRest c = true)
    (ht : ∀ d, t.getLast? = some d → isRest d = true) (d : Char)
    (hd : (c :: t).getLast? = some d) : isRest d = true := by
  cases t with
  | nil =>
    rw [List.getLast?_singleton, Option.some.injEq] at hd
    exact hd ▸ hc
  | cons e t =>
    rw [List.getLast?_cons_cons] at hd
    exact ht d hd

/-- **A continuation that takes a whole text** is taken in front of any text that cannot go on with
it.  It has no other characters than a dotted name has, and it does not end with a dot. -/
theorem dottedRest_of_snd_eq_nil {t : Text} (h : (dottedRest t).2 = []) :
    (∀ rest : Text, (∀ c, rest.head? = some c → ¬ IsDottedChar c) →
      dottedRest (t ++ rest) = (t, rest)) ∧
    (∀ c ∈ t, IsDottedChar c) ∧ ∀ c, t.getLast? = some c → isRest c = true := by
  fun_induction dottedRest t with
  | case1 =>
    refine ⟨fun rest hr => ?_, by simp, by simp⟩
    cases rest with
    | nil => rfl
    | cons d ds =>
      have hd := hr d rfl
      have hrest : isRest d = false := Bool.eq_false_iff.2 fun e => hd (Or.inl e)
      rw [List.nil_append, dottedRest, hrest]
      · rfl
      · rintro - - rfl
        exact absurd (Or.inr rfl) hd
  | case2 c cs hc r ih =>
    obtain ⟨h₁, h₂, h₃⟩ := ih h
    refine ⟨fun rest hr => ?_, List.forall_mem_cons.2 ⟨Or.inr rfl, h₂⟩, fun d hd => ?_⟩
    · rw [List.cons_append, List.cons_append, dottedRest, ← List.cons_append]
      simp only [hc, ↓reduceIte, h₁ rest hr]
    · rw [List.getLast?_cons_cons] at hd
      exact h₃ d hd
  | case3 => cases h
  | case4 c cs hne hc r ih =>
    obtain ⟨h₁, h₂, h₃⟩ := ih h
    refine ⟨fun rest hr => ?_, List.forall_mem_cons.2 ⟨Or.inl hc, h₂⟩,
      isRest_getLast?_cons hc h₃⟩
    rw [List.cons_append, dottedRest]
    · simp only [hc, ↓reduceIte, h₁ rest hr]
    · rintro - - rfl
      cases hc
  | case5 => cases h

theorem isDotted_cons {c : Char} {cs : Text} (h : isDotted (c :: cs) = true) :
    isStart c = true ∧ (dottedRest cs).2 = [] := by
  unfold isDotted at h
  split at h
  · rename_i name hr
    simp only [readDotted?] at hr
    split at hr
    · rename_i hc
      exact ⟨hc, (Prod.mk.inj (Option.some.inj hr)).2⟩
    · cases hr
  · cases h

/-- A name is a dotted name without dots. -/
theorem isDotted_of_isName {name : Text} (h : isName name = true) : isDotted name = true := by
  have hrest : ∀ t : Text, t.all isRest = true → dottedRest t = (t, []) := by
    intro t ht
    induction t with
    | nil => rfl
    | cons c t ih =>
      rw [List.all_cons, Bool.and_eq_true] at ht
      rw [dottedRest, ite_cond_eq_true _ _ (eq_true ht.1), ih ht.2]
      rintro - - rfl
      exact absurd ht.1 (by decide)
  cases name with
  | nil => cases h
  | cons c cs =>
    rw [isName, Bool.and_eq_true] at h
    simp [isDotted, readDotted?, h.1, hrest cs h.2]

section Dotted

variable {name : Text} (h : isDotted name = true)
include h

/-- A dotted name starts like a name. -/
theorem exists_cons_of_isDotted : ∃ c cs, name = c :: cs ∧ isStart c = true := by
  cases name with
  | nil => cases h
  | cons c cs => exact ⟨c, cs, rfl, (isDotted_cons h).1⟩

theorem isDottedChar_of_mem : ∀ c ∈ name, IsDottedChar c := by
  cases name with
  | nil => cases h
  | cons c cs =>
    obtain ⟨hc, hcs⟩ := isDotted_cons h
    exact List.forall_mem_cons.2 ⟨Or.inl (isRest_of_isStart hc), (dottedRest_of_snd_eq_nil hcs).2.1⟩

/-- A dotted name does not end with a dot. -/
theorem isRest_of_getLast? : ∀ c, name.getLast? = some c → isRest c = true := by
  cases name with
  | nil => cases h
  | cons c cs =>
    obtain ⟨hc, hcs⟩ := isDotted_cons h
    exact isRest_getLast?_cons (isRest_of_isStart hc) (dottedRest_of_snd_eq_nil hcs).2.2

/-- **A dotted name is read as a whole** in front of any text that cannot go on with it. -/
theorem readDotted?_append_of_isDotted {rest : Text}
    (hr : ∀ c, rest.head? = some c → ¬ IsDottedChar c) :
    readDotted? (name ++ rest) = some (name, rest) := by
  cases name with
  | nil => cases h
  | cons c cs =>
    obtain ⟨hc, hcs⟩ := isDotted_cons h
    rw [List.cons_append, readDotted?]
    simp only [hc, ↓reduceIte, (dottedRest_of_snd_eq_nil hcs).1 rest hr]

theorem isTrimmed_of_isDotted : name.IsTrimmed := by
  refine ⟨fun c hc => ?_, fun c hc => isBlank_of_isRest (isRest_of_getLast? h c hc)⟩
  obtain ⟨d, ds, rfl, hd⟩ := exists_cons_of_isDotted h
  cases hc
  exact isBlank_of_isRest (isRest_of_isStart hd)

/-- A dotted name has no brackets, and other marks only where they belong to names. -/
theorem nested_of_isDotted {p : Char → Prop} (hp : ∀ c, IsDottedChar c → p c) :
    Bracket.Nested p name := by
  refine Bracket.Nested.of_forall fun c hc => ?_
  have := isDottedChar_of_mem h c hc
  exact ⟨isOpener_of_isDottedChar this, isCloser_of_isDottedChar this, hp c this⟩

end Dotted

/-! ### Names of parameters -/

/-- The names of parameters and return values: a name or three dots. -/
def IsParam (name : Text) : Prop := isName name = true ∨ name = ['.', '.', '.']

section Param

variable {name : Text} (h : IsParam name)
include h

theorem IsParam.ne_nil : name ≠ [] := by
  rintro rfl
  rcases h with h | h
  · cases h
  · cases h

theorem IsParam.isDottedChar {c : Char} (hc : c ∈ name) : IsDottedChar c := by
  rcases h with h | rfl
  · exact isDottedChar_of_mem (isDotted_of_isName h) c hc
  · right
    simpa using hc

/-- The name of a parameter is read as a whole in front of any text that cannot go on with it. -/
theorem readParam?_append {rest : Text} (hr : ∀ c, rest.head? = some c → isRest c = false) :
    readParam? (name ++ rest) = some (name, rest) := by
  rcases h with h | rfl
  · rw [readParam?, read?_append_of_isName h hr]
    rfl
  · rfl

end Param

/-! ### Names and literals -/

/-- A name does not start with a decimal digit of any script. -/
theorem isDecimal_of_isStart {c : Char} (h : isStart c = true) : Text.isDecimal c = false := by
  have hc := toNat_of_isStart h
  -- the letters lie between the ASCII digits and the digits of the other scripts
  have hz : ∀ z ∈ Text.decimalZeros, z + 10 ≤ 65 ∨ 122 < z := by decide
  have hnone : Text.decimalZeros.find?
      (fun z => decide (z ≤ c.toNat) && decide (c.toNat < z + 10)) = none := by
    rw [List.find?_eq_none]
    intro z hm
    have := hz z hm
    simp only [Bool.and_eq_true, decide_eq_true_eq]
    omega
  rw [Text.isDecimal, Text.decimalValue?, hnone]
  rfl

/-- A dotted name that is no truth value is no literal. -/
theorem isLiteral_of_isDotted {name : Text} (h : isDotted name = true)
    (ht : Literal.isTruth name = false) : Literal.isLiteral name = false := by
  obtain ⟨c, cs, rfl, hc⟩ := exists_cons_of_isDotted h
  have hrest := isRest_of_isStart hc
  have hquote : Literal.isBetween ['"', '\'', '\x60'] (c :: cs) = false := by
    have h₁ := ne_of_isRest hrest (d := '"') (by decide)
    have h₂ := ne_of_isRest hrest (d := '\'') (by decide)
    have h₃ := ne_of_isRest hrest (d := '\x60') (by decide)
    cases cs with
    | nil => rfl
    | cons d ds => simp [Literal.isBetween, h₁, h₂, h₃]
  have htable : Literal.isTable (c :: cs) = false := by
    have := ne_of_isRest hrest (d := '{') (by decide)
    simp [Literal.isTable, this]
  have hsign : Literal.unsigned (c :: cs) = c :: cs := by
    have := ne_of_isRest hrest (d := '-') (by decide)
    rw [Literal.unsigned]
    rintro _ ⟨⟩
    exact this rfl
  have hnumber : Literal.isNumber (c :: cs) = false := by
    have hzero : Literal.isHex (c :: cs) = false := by
      have := toNat_of_isStart hc
      rw [Literal.isHex]
      rintro _ _ ⟨⟩
      exact absurd this (by decide)
    rw [Literal.isNumber]
    simp only [hsign, hzero, List.takeWhile_cons_of_neg, isDecimal_of_isStart hc,
      Bool.false_eq_true, not_false_eq_true, List.isEmpty_nil, Bool.not_true, Bool.false_and,
      Bool.or_false]
  rw [Literal.isLiteral, hquote, htable, ht, hnumber]
  rfl

end LuaAtlas.Name

namespace LuaAtlas.Literal

/-- A text between two equal marks. -/
theorem isBetween_cons_append {marks : List Char} {c : Char} (hc : marks.contains c = true)
    (t : Text) : isBetween marks (c :: (t ++ [c])) = true := by
  cases t with
  | nil => simpa [isBetween] using hc
  | cons d t =>
    have hlast : (d :: (t ++ [c])).getLast? = some c := by
      rw [← List.cons_append, List.getLast?_concat]
    rw [List.cons_append, isBetween, hc, hlast]
    simp

end LuaAtlas.Literal
