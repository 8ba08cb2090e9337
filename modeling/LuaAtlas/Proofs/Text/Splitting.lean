import LuaAtlas.Proofs.Text.Lines

/-!
# Where a text is cut

`splitAt` cuts a text at the separators that stand at depth zero.  A text is *whole* if each of its
separators stands at another depth (`Whole`).  A whole text is passed over, nested or not, and only
moves the depth (`splitAt_append_of_whole`); the texts that are not cut at all are the whole ones
(`splitTop_eq_self_iff`).
-/

namespace LuaAtlas.Bracket

variable {t u : Text} {separator : Char} {depth : Int}

theorem isBracket_of_isBlank {c : Char} (h : Text.isBlank c = true) :
    isOpener c = false ∧ isCloser c = false := by
  have hne (d : Char) (hd : Text.isBlank d = false) : (c == d) = false :=
    beq_eq_false_iff_ne.2 (Text.ne_of_isBlank h hd)
  simp [isOpener, isCloser, hne '<' (by decide), hne '(' (by decide),
    hne '[' (by decide), hne '{' (by decide), hne '>' (by decide), hne ')' (by decide),
    hne ']' (by decide), hne '}' (by decide)]

theorem step_of_isBlank {c : Char} (h : Text.isBlank c = true) (depth : Int) :
    step depth c = depth := by
  obtain ⟨ho, hc⟩ := isBracket_of_isBlank h
  simp [step, ho, hc]

theorem depthAfter_append (depth : Int) (t u : Text) :
    depthAfter depth (t ++ u) = depthAfter (depthAfter depth t) u := List.foldl_append

/-- Characters other than brackets do not move the depth. -/
theorem depthAfter_eq_self (h : ∀ c ∈ t, isOpener c = false ∧ isCloser c = false) (depth : Int) :
    depthAfter depth t = depth := by
  induction t with
  | nil => rfl
  | cons c t ih =>
    obtain ⟨ho, hc⟩ := h c (List.mem_cons_self ..)
    have hstep : step depth c = depth := by simp [step, ho, hc]
    show depthAfter (step depth c) t = depth
    rw [hstep, ih fun d hd => h d (List.mem_cons_of_mem _ hd)]

theorem prependFirst_nil {ps : List Text} (h : ps ≠ []) : prependFirst [] ps = ps := by
  cases ps with
  | nil => exact absurd rfl h
  | cons p ps => rfl

/-- A character that does not divide goes to the first part. -/
theorem splitAt_cons {c : Char} (h : ¬ (c = separator ∧ depth = 0)) (t : Text) :
    splitAt separator depth (c :: t) = consFirst c (splitAt separator (step depth c) t) := by
  have hdivide : (c == separator && depth == 0) = false := by simpa using h
  rw [splitAt, step]
  by_cases ho : isOpener c = true
  · simp only [ho, ↓reduceIte]
  · by_cases hc : isCloser c = true
    · simp only [ho, hc, Bool.false_eq_true, ↓reduceIte]
    · simp only [ho, hc, hdivide, Bool.false_eq_true, ↓reduceIte]

/-- A character that does not divide goes to what stands in front of the first part. -/
theorem prependFirst_splitAt_cons {c : Char} (h : ¬ (c = separator ∧ depth = 0)) (p t : Text) :
    prependFirst p (splitAt separator depth (c :: t)) =
      prependFirst (p ++ [c]) (splitAt separator (step depth c) t) := by
  rw [splitAt_cons h]
  cases hparts : splitAt separator (step depth c) t with
  | nil => exact absurd hparts (splitAt_ne_nil _ _ _)
  | cons q qs => simp [consFirst, prependFirst]

/-- A separator at depth zero divides. -/
theorem splitAt_separator (ho : isOpener separator = false) (hc : isCloser separator = false)
    (t : Text) : splitAt separator 0 (separator :: t) = [] :: splitAt separator 0 t := by
  rw [splitAt]
  simp [ho, hc]

/-- **A whole text** has no separator outside its brackets, which are counted from a given depth. -/
def Whole (separator : Char) (depth : Int) (t : Text) : Prop :=
  ∀ front back, t = front ++ separator :: back → depthAfter depth front ≠ 0

theorem whole_nil : Whole separator depth [] := by
  intro front back he
  simp at he

theorem whole_cons_iff {c : Char} :
    Whole separator depth (c :: t) ↔
      ¬ (c = separator ∧ depth = 0) ∧ Whole separator (step depth c) t := by
  constructor
  · intro h
    refine ⟨fun hd => h [] t (by rw [hd.1]; rfl) hd.2, fun front back he => ?_⟩
    exact h (c :: front) back (by rw [he]; rfl)
  · rintro ⟨hplace, hrest⟩ front back he
    cases front with
    | nil =>
      obtain ⟨rfl, -⟩ := List.cons.inj he
      exact fun hd => hplace ⟨rfl, hd⟩
    | cons a front =>
      obtain ⟨rfl, htail⟩ := List.cons.inj he
      exact hrest front back htail

theorem whole_append_iff :
    Whole separator depth (t ++ u) ↔
      Whole separator depth t ∧ Whole separator (depthAfter depth t) u := by
  induction t generalizing depth with
  | nil => exact (and_iff_right whole_nil).symm
  | cons c t ih =>
    rw [List.cons_append, whole_cons_iff, whole_cons_iff, ih, and_assoc]
    rfl

theorem whole_of_not_mem (h : separator ∉ t) (depth : Int) : Whole separator depth t := by
  intro front back he
  exact absurd (by simp [he]) h

/-- **A whole text is passed over**, and only moves the depth. -/
theorem splitAt_append_of_whole (h : Whole separator depth t) (rest : Text) :
    splitAt separator depth (t ++ rest) =
      prependFirst t (splitAt separator (depthAfter depth t) rest) := by
  induction t generalizing depth with
  | nil => exact (prependFirst_nil (splitAt_ne_nil _ _ _)).symm
  | cons c t ih =>
    obtain ⟨hplace, hrest⟩ := whole_cons_iff.1 h
    rw [List.cons_append, splitAt_cons hplace, ih hrest,
      consFirst_prependFirst _ _ (splitAt_ne_nil _ _ _)]
    rfl

/-- A text without the separator is passed over at any depth. -/
theorem splitAt_append_of_not_mem (h : separator ∉ t) (depth : Int) (rest : Text) :
    splitAt separator depth (t ++ rest) =
      prependFirst t (splitAt separator (depthAfter depth t) rest) :=
  splitAt_append_of_whole (whole_of_not_mem h depth) rest

/-- A text without brackets is passed over inside brackets, with all separators in it. -/
theorem splitAt_append_of_deep (separator : Char)
    (h : ∀ c ∈ t, isOpener c = false ∧ isCloser c = false) (hdepth : depth ≠ 0) (rest : Text) :
    splitAt separator depth (t ++ rest) = prependFirst t (splitAt separator depth rest) := by
  have hwhole : Whole separator depth t := by
    intro front back he
    rw [depthAfter_eq_self fun c hc => h c (he ▸ List.mem_append_left _ hc)]
    exact hdepth
  rw [splitAt_append_of_whole hwhole, depthAfter_eq_self h]

theorem splitAt_eq_self (h : separator ∉ t) (depth : Int) : splitAt separator depth t = [t] := by
  have hcut := splitAt_append_of_not_mem h depth []
  rw [List.append_nil] at hcut
  rw [hcut]
  simp [splitAt, prependFirst]

/-- **A text is not cut** exactly if it is whole. -/
theorem splitAt_eq_self_iff (ho : isOpener separator = false) (hc : isCloser separator = false)
    (depth : Int) : splitAt separator depth t = [t] ↔ Whole separator depth t := by
  induction t generalizing depth with
  | nil => exact iff_of_true rfl whole_nil
  | cons a t ih =>
    rw [whole_cons_iff]
    by_cases hdivide : a = separator ∧ depth = 0
    · obtain ⟨rfl, rfl⟩ := hdivide
      rw [splitAt_separator ho hc]
      simp
    · have hkeep : splitAt separator depth (a :: t) = [a :: t] ↔
          splitAt separator (step depth a) t = [t] := by
        rw [splitAt_cons hdivide]
        cases hparts : splitAt separator (step depth a) t with
        | nil => exact absurd hparts (splitAt_ne_nil _ _ _)
        | cons p ps => simp [consFirst]
      rw [hkeep, ih]
      exact (and_iff_right hdivide).symm

/-- The text is the only part of itself exactly if no separator stands outside its brackets. -/
theorem splitTop_eq_self_iff (ho : isOpener separator = false) (hc : isCloser separator = false) :
    splitTop separator t = [t] ↔ Whole separator 0 t := splitAt_eq_self_iff ho hc 0

/-- Every part of a text stands in it. -/
theorem infix_of_mem_splitAt {p : Text} (h : p ∈ splitAt separator depth t) : p <:+: t := by
  have hjoin : ∀ ps : List Text, p ∈ ps → p <:+: Text.join [separator] ps := by
    intro ps hp
    induction ps with
    | nil => cases hp
    | cons q ps ih =>
      cases ps with
      | nil =>
        rw [List.mem_singleton.1 hp]
        exact List.infix_rfl
      | cons q' ps =>
        rw [Text.join, List.append_assoc]
        rcases List.mem_cons.1 hp with rfl | hp
        · exact (List.prefix_append ..).isInfix
        · exact (ih hp).trans ((List.suffix_append _ _).trans (List.suffix_append _ _)).isInfix
  have := hjoin _ h
  rwa [join_splitAt] at this

end LuaAtlas.Bracket
