import LuaAtlas.Proofs.Text.Lines
import LuaAtlas.Text.Integer
import Mathlib.Data.Nat.Digits.Defs

/-!
# Written integers

A text of decimal digits stands for the number with these digits, the first one counting most
(`toNat?_of_digits`).  It is read as an integer if it is not too long (`toInt?_of_digits`).  There
are digits that are no decimal digits, and a text with one of them is no integer, even if all of it
is digits: `toInt?_eq_none_iff` says which texts of digits are not read.
-/

namespace LuaAtlas.Text

variable {c : Char} {t : Text} {digits : List Nat} {n v : Nat}

/-! ### Digits -/

/-- The digits of all sorts as inclusive ranges of code points. -/
def digitRanges : List (Nat × Nat) := decimalZeros.map (fun z => (z, z + 9)) ++ otherDigitRanges

theorem isDigit_of_isDecimal (h : isDecimal c = true) : isDigit c = true := by
  rw [isDigit, h, Bool.true_or]

theorem inRanges_of_isDigit (h : isDigit c = true) : inRanges digitRanges c.toNat = true := by
  rw [digitRanges, inRanges, List.any_append, Bool.or_eq_true]
  refine (Bool.or_eq_true_iff.1 h).imp_left fun hdecimal => ?_
  obtain ⟨n, hn⟩ := Option.isSome_iff_exists.1 hdecimal
  obtain ⟨z, hz, -⟩ := Option.map_eq_some_iff.1 hn
  have hdigit := List.find?_some hz
  refine List.any_eq_true.2 ⟨(z, z + 9), List.mem_map_of_mem (List.mem_of_find?_eq_some hz), ?_⟩
  simp only [Bool.and_eq_true, decide_eq_true_eq] at hdigit ⊢
  omega

theorem isBlank_of_isDigit (h : isDigit c = true) : isBlank c = false := by
  have hapart : ∀ r ∈ digitRanges, ∀ b ∈ blankRanges, r.2 < b.1 ∨ b.2 < r.1 := by decide
  by_contra hblank
  obtain ⟨r, hr, hdigit⟩ := List.any_eq_true.1 (inRanges_of_isDigit h)
  obtain ⟨b, hb, hin⟩ := List.any_eq_true.1 (Bool.of_not_eq_false hblank)
  have := hapart r hr b hb
  simp only [Bool.and_eq_true, decide_eq_true_eq] at hdigit hin
  omega

theorem isBlank_of_isDecimal (h : isDecimal c = true) : isBlank c = false :=
  isBlank_of_isDigit (isDigit_of_isDecimal h)

theorem ne_of_isDecimal {d : Char} (h : isDecimal c = true) (hd : isDecimal d = false) : c ≠ d := by
  rintro rfl
  rw [h] at hd
  cases hd

/-! ### The number with given digits -/

/-- The number with the given decimal digits, the first one counting most. -/
def numberOf (digits : List Nat) : Nat := Nat.ofDigits 10 digits.reverse

/-- The decimal digits of a text. -/
theorem exists_digits (h : ∀ c ∈ t, isDecimal c = true) :
    ∃ digits : List Nat, t.map decimalValue? = digits.map some := by
  induction t with
  | nil => exact ⟨[], rfl⟩
  | cons c t ih =>
    rw [List.forall_mem_cons] at h
    obtain ⟨digits, ht⟩ := ih h.2
    obtain ⟨v, hv⟩ := Option.isSome_iff_exists.1 h.1
    exact ⟨v :: digits, by rw [List.map_cons, List.map_cons, hv, ht]⟩

theorem isDecimal_of_digits (h : t.map decimalValue? = digits.map some) (hc : c ∈ t) :
    isDecimal c = true := by
  have hmem : decimalValue? c ∈ digits.map some := h ▸ List.mem_map_of_mem hc
  obtain ⟨v, -, hv⟩ := List.mem_map.1 hmem
  rw [isDecimal, ← hv]
  rfl

/-- Another digit counts ten times what stands in front of it. -/
theorem digitsValue?_cons (hc : decimalValue? c = some v) (n : Nat) (t : Text) :
    digitsValue? n (c :: t) = digitsValue? (10 * n + v) t := by
  have hne : c ≠ '_' := by
    rintro rfl
    cases hc
  rw [digitsValue?]
  · rw [hc]
    rfl
  · rintro d ds rfl
    exact absurd rfl hne

theorem digitsValue?_of_digits (h : t.map decimalValue? = digits.map some) (n : Nat) :
    digitsValue? n t = some (digits.foldl (fun m d => d + 10 * m) n) := by
  induction t generalizing digits n with
  | nil =>
    obtain rfl := List.map_eq_nil_iff.1 h.symm
    rfl
  | cons c t ih =>
    cases digits with
    | nil => cases h
    | cons v digits =>
      obtain ⟨hc, ht⟩ := List.cons.inj h
      rw [digitsValue?_cons hc, ih ht, List.foldl_cons, Nat.add_comm]

theorem toNat?_eq_digitsValue? (hne : t ≠ []) (h : ∀ c ∈ t, c ≠ '_') :
    toNat? t = digitsValue? 0 t := by
  cases t with
  | nil => exact absurd rfl hne
  | cons c t =>
    rw [toNat?, digitsValue?]
    · simp
    · rintro d ds rfl
      exact absurd rfl (h '_' (List.mem_cons_self ..))

/-- **The number with given digits.** -/
theorem toNat?_of_digits (h : t.map decimalValue? = digits.map some) (hne : t ≠ []) :
    toNat? t = some (numberOf digits) := by
  have hunderscore : ∀ c ∈ t, c ≠ '_' := fun c hc =>
    ne_of_isDecimal (isDecimal_of_digits h hc) (by decide)
  rw [toNat?_eq_digitsValue? hne hunderscore, digitsValue?_of_digits h, numberOf,
    Nat.ofDigits_eq_foldr, List.foldr_reverse]
  rfl

theorem digitsValue?_eq_none (hc : c ∈ t) (hnone : isDecimal c = false) (h : ∀ c ∈ t, c ≠ '_')
    (n : Nat) : digitsValue? n t = none := by
  induction t generalizing n with
  | nil => cases hc
  | cons d t ih =>
    rw [List.forall_mem_cons] at h
    cases hd : decimalValue? d with
    | none =>
      rw [digitsValue?]
      · rw [hd]
        rfl
      · rintro e es rfl
        exact absurd rfl h.1
    | some v =>
      rw [digitsValue?_cons hd]
      rcases List.mem_cons.1 hc with rfl | hc
      · rw [isDecimal, hd] at hnone
        cases hnone
      · exact ih hc h.2 _

/-! ### Integers -/

/-- Digits have nothing around them that is skipped, and no sign. -/
theorem bare_of_isDigit (h : ∀ c ∈ t, isDigit c = true) :
    t.dropWhile surroundsInteger = t ∧ dropTrailing surroundsInteger t = t ∧
      withoutSign t = (false, t) := by
  have hvisible : ∀ c ∈ t, surroundsInteger c = false := fun c hc => by
    rw [surroundsInteger, isBlank_of_isDigit (h c hc), Bool.false_and]
  refine ⟨?_, dropTrailing_eq_self fun c hc => hvisible c (List.mem_of_getLast? hc), ?_⟩
  · cases t with
    | nil => rfl
    | cons c t => rw [List.dropWhile_cons_of_neg (by simp [hvisible c (List.mem_cons_self ..)])]
  · unfold withoutSign
    split
    · cases h '-' (List.mem_cons_self ..)
    · cases h '+' (List.mem_cons_self ..)
    · rfl

theorem toInt?_of_isDigit (h : ∀ c ∈ t, isDigit c = true) :
    toInt? t = if (excessDigits? t).isSome then none else (toNat? t).map Nat.cast := by
  obtain ⟨hleft, hright, hsign⟩ := bare_of_isDigit h
  rw [toInt?, hleft, hright, hsign]
  rfl

theorem excessDigits?_of_isDecimal (h : ∀ c ∈ t, isDecimal c = true) (hne : t ≠ []) :
    excessDigits? t = if digitLimit < t.length then some t.length else none := by
  obtain ⟨hleft, -, hsign⟩ := bare_of_isDigit fun c hc => isDigit_of_isDecimal (h c hc)
  obtain ⟨digits, hdigits⟩ := exists_digits h
  have hrun : digitRun t = t := by
    rw [digitRun, hleft, hsign]
    refine List.takeWhile_eq_self_iff.2 fun c hc => ?_
    rw [h c hc, Bool.true_or]
  rw [excessDigits?, hrun, toNat?_of_digits hdigits hne, List.countP_eq_length.2 h, Option.map_some,
    Option.filter_some]
  simp only [decide_eq_true_eq]

/-- **A text of decimal digits is read as the integer with these digits**, unless there are too
many of them. -/
theorem toInt?_of_digits (h : t.map decimalValue? = digits.map some) (hne : t ≠ []) :
    toInt? t = if digitLimit < t.length then none else some (numberOf digits : Int) := by
  have hdecimal : ∀ c ∈ t, isDecimal c = true := fun c hc => isDecimal_of_digits h hc
  rw [toInt?_of_isDigit fun c hc => isDigit_of_isDecimal (hdecimal c hc),
    excessDigits?_of_isDecimal hdecimal hne, toNat?_of_digits h hne]
  split
  · rfl
  · rfl

/-- **Digits that are not read as an integer**: one of them is no decimal digit, or there are too
many of them. -/
theorem toInt?_eq_none_iff (hne : t ≠ []) (h : ∀ c ∈ t, isDigit c = true) :
    toInt? t = none ↔ (∃ c ∈ t, isDecimal c = false) ∨ digitLimit < t.length := by
  by_cases hdecimal : ∀ c ∈ t, isDecimal c = true
  · obtain ⟨digits, hdigits⟩ := exists_digits hdecimal
    have hnone : ¬∃ c ∈ t, isDecimal c = false := by simpa using hdecimal
    rw [toInt?_of_digits hdigits hne, or_iff_right hnone]
    simp
  · obtain ⟨c, hc, hnone⟩ : ∃ c ∈ t, isDecimal c = false := by simpa using hdecimal
    refine iff_of_true ?_ (Or.inl ⟨c, hc, hnone⟩)
    have hunderscore : ∀ c ∈ t, c ≠ '_' := by
      rintro c hc rfl
      cases h '_' hc
    rw [toInt?_of_isDigit h, toNat?_eq_digitsValue? hne hunderscore,
      digitsValue?_eq_none hc hnone hunderscore]
    simp

end LuaAtlas.Text
