import LuaAtlas.Proofs.Text.Splitting

/-!
# Cuts at the top level

`IsTopCut` says, without the scan, what it is for a text to be cut at its separators outside
brackets.  Every text has exactly one cut of this sort, however badly its brackets are nested, and
`splitTop` finds it (`isTopCut_iff`).

A text that is not whole has a first separator outside brackets (`exists_first_separator`), and the
scan passes over what stands in front of it and starts again at depth zero behind it
(`splitTop_append_separator`).  This is all that the existence of the cut and its uniqueness need:
both are inductions from one separator to the next.
-/

namespace LuaAtlas.Bracket

variable {separator : Char} {depth : Int} {p t rest : Text} {parts : List Text}

/-! ### The first separator -/

theorem depthAfter_eq (depth : Int) (t : Text) :
    depthAfter depth t = depth + t.countP isOpener - t.countP isCloser := by
  induction t generalizing depth with
  | nil => simp [depthAfter]
  | cons c t ih =>
    show depthAfter (step depth c) t = _
    rw [ih, step, List.countP_cons, List.countP_cons]
    by_cases ho : isOpener c = true
    · have hc : isCloser c = false := by
        by_contra hc
        rw [isOpener_of_isCloser (Bool.not_eq_false _ ▸ hc)] at ho
        cases ho
      simp only [ho, hc, Bool.false_eq_true, ↓reduceIte]
      omega
    · by_cases hc : isCloser c = true
      · simp only [ho, hc, Bool.false_eq_true, ↓reduceIte]
        omega
      · simp only [ho, hc, Bool.false_eq_true, ↓reduceIte]
        omega

/-- The depth is back at zero exactly if as many brackets are closed as are opened. -/
theorem depthAfter_zero_iff : depthAfter 0 t = 0 ↔ t.countP isOpener = t.countP isCloser := by
  rw [depthAfter_eq]
  omega

/-- **A text that is not whole has a first separator outside brackets.** -/
theorem exists_first_separator (h : ¬Whole separator depth t) :
    ∃ p rest, t = p ++ separator :: rest ∧ Whole separator depth p ∧ depthAfter depth p = 0 := by
  induction t generalizing depth with
  | nil => exact absurd whole_nil h
  | cons c t ih =>
    by_cases hplace : c = separator ∧ depth = 0
    · obtain ⟨rfl, rfl⟩ := hplace
      exact ⟨[], t, rfl, whole_nil, rfl⟩
    · have hrest : ¬Whole separator (step depth c) t := fun hw => h (whole_cons_iff.2 ⟨hplace, hw⟩)
      obtain ⟨p, rest, rfl, hp, hdepth⟩ := ih hrest
      exact ⟨c :: p, rest, rfl, whole_cons_iff.2 ⟨hplace, hp⟩, hdepth⟩

/-- What stands in front of the first separator is the first part. -/
theorem splitTop_append_separator (ho : isOpener separator = false)
    (hc : isCloser separator = false) (hp : Whole separator 0 p) (hdepth : depthAfter 0 p = 0)
    (rest : Text) : splitTop separator (p ++ separator :: rest) = p :: splitTop separator rest := by
  rw [splitTop, splitAt_append_of_whole hp, hdepth, splitAt_separator ho hc]
  simp [prependFirst, splitTop]

/-- A bracket divides nothing. -/
theorem splitAt_of_isBracket (h : isOpener separator = true ∨ isCloser separator = true)
    (depth : Int) (t : Text) : splitAt separator depth t = [t] := by
  induction t generalizing depth with
  | nil => rfl
  | cons c t ih =>
    have keep (d : Int) : consFirst c (splitAt separator d t) = [c :: t] := by
      rw [ih]
      rfl
    rw [splitAt]
    by_cases ho : isOpener c = true
    · rw [ite_cond_eq_true _ _ (eq_true ho), keep]
    · by_cases hc : isCloser c = true
      · rw [ite_cond_eq_false _ _ (eq_false ho), ite_cond_eq_true _ _ (eq_true hc), keep]
      · have hne : (c == separator && depth == 0) = false := by
          rw [beq_eq_false_iff_ne.2, Bool.false_and]
          rintro rfl
          exact h.elim ho hc
        simp only [ho, hc, hne, Bool.false_eq_true, ↓reduceIte, keep]

/-! ### The cut -/

/-- **A cut at the top level.**  With the separator between each two of them the parts are the text.
There is a last part (no part at all would join to the empty text, too); each of the others closes
as many brackets as it opens.  No part has a separator outside brackets, which are counted from its
own beginning. -/
structure IsTopCut (separator : Char) (t : Text) (parts : List Text) : Prop where
  join_eq : Text.join [separator] parts = t
  ne_nil : parts ≠ []
  closed : ∀ p ∈ parts.dropLast, p.countP isOpener = p.countP isCloser
  whole : ∀ p ∈ parts, Whole separator 0 p

theorem isTopCut_singleton_iff : IsTopCut separator t [p] ↔ p = t ∧ Whole separator 0 p := by
  constructor
  · intro h
    exact ⟨h.join_eq, h.whole p (List.mem_singleton_self p)⟩
  · rintro ⟨rfl, hp⟩
    refine ⟨rfl, by simp, by simp, fun q hq => ?_⟩
    rw [List.mem_singleton.1 hq]
    exact hp

/-- A cut with several parts is a first part and a cut of what follows its separator. -/
theorem isTopCut_cons_iff (hne : parts ≠ []) :
    IsTopCut separator t (p :: parts) ↔
      ∃ rest, t = p ++ separator :: rest ∧ Whole separator 0 p ∧ depthAfter 0 p = 0 ∧
        IsTopCut separator rest parts := by
  have hjoin : Text.join [separator] (p :: parts) =
      p ++ separator :: Text.join [separator] parts := by
    obtain ⟨q, qs, rfl⟩ := List.exists_cons_of_ne_nil hne
    rw [Text.join, List.append_assoc, List.singleton_append]
  constructor
  · rintro ⟨hjoined, -, hclosed, hwhole⟩
    rw [List.dropLast_cons_of_ne_nil hne, List.forall_mem_cons] at hclosed
    obtain ⟨hp, hparts⟩ := List.forall_mem_cons.1 hwhole
    refine ⟨_, ?_, hp, depthAfter_zero_iff.2 hclosed.1, rfl, hne, hclosed.2, hparts⟩
    rw [← hjoined, hjoin]
  · rintro ⟨rest, rfl, hp, hdepth, hcut⟩
    refine ⟨by rw [hjoin, hcut.join_eq], by simp, ?_, List.forall_mem_cons.2 ⟨hp, hcut.whole⟩⟩
    rw [List.dropLast_cons_of_ne_nil hne, List.forall_mem_cons]
    exact ⟨depthAfter_zero_iff.1 hdepth, hcut.closed⟩

/-- The parts that the scan finds are a cut at the top level. -/
theorem isTopCut_splitTop (ho : isOpener separator = false) (hc : isCloser separator = false)
    (t : Text) : IsTopCut separator t (splitTop separator t) := by
  induction hn : t.length using Nat.strong_induction_on generalizing t with
  | _ n ih =>
  by_cases hwhole : Whole separator 0 t
  · rw [(splitTop_eq_self_iff ho hc).2 hwhole]
    exact isTopCut_singleton_iff.2 ⟨rfl, hwhole⟩
  · obtain ⟨p, rest, rfl, hp, hdepth⟩ := exists_first_separator hwhole
    have hrest : IsTopCut separator rest (splitTop separator rest) := by
      refine ih rest.length ?_ rest rfl
      rw [← hn, List.length_append, List.length_cons]
      omega
    rw [splitTop_append_separator ho hc hp hdepth]
    exact (isTopCut_cons_iff hrest.ne_nil).2 ⟨rest, rfl, hp, hdepth, hrest⟩

/-- **There is one cut at the top level**, and the scan finds it. -/
theorem isTopCut_iff (ho : isOpener separator = false) (hc : isCloser separator = false) :
    IsTopCut separator t parts ↔ parts = splitTop separator t := by
  constructor
  · intro h
    induction parts generalizing t with
    | nil => exact absurd rfl h.ne_nil
    | cons p parts ih =>
      by_cases hne : parts = []
      · subst hne
        obtain ⟨rfl, hp⟩ := isTopCut_singleton_iff.1 h
        exact ((splitTop_eq_self_iff ho hc).2 hp).symm
      · obtain ⟨rest, rfl, hp, hdepth, hrest⟩ := (isTopCut_cons_iff hne).1 h
        rw [splitTop_append_separator ho hc hp hdepth, ← ih hrest]
  · rintro rfl
    exact isTopCut_splitTop ho hc t

/-- **The parts between top-level separators are determined by the text.**  A separator that is one
character and no bracket cuts every text in the only way there is to cut it at the top level, so no
part is cut any further.  Any other separator leaves the text as it is. -/
theorem splitTopAt_unique (separator t : Text) :
    (∀ c, separator = [c] → isOpener c = false → isCloser c = false →
      (∀ parts, IsTopCut c t parts ↔ parts = splitTopAt separator t) ∧
      ∀ p ∈ splitTopAt separator t, splitTopAt separator p = [p]) ∧
    ((∀ c, separator = [c] → isOpener c = true ∨ isCloser c = true) →
      splitTopAt separator t = [t]) := by
  constructor
  · rintro c rfl ho hc
    refine ⟨fun parts => isTopCut_iff ho hc, fun p hp => ?_⟩
    exact (splitTop_eq_self_iff ho hc).2 ((isTopCut_splitTop ho hc t).whole p hp)
  · intro h
    unfold splitTopAt
    split
    · rename_i c
      exact splitAt_of_isBracket (h c rfl) 0 t
    · rfl

/-- A closing bracket too many, made good by an opening one: the comma between them does not
divide. -/
theorem splitTopAt_unique_overclosed :
    (",".toList = [','] ∧ isOpener ',' = false ∧ isCloser ',' = false) ∧
    (∀ parts, IsTopCut ',' "a,b>,c<,d".toList parts ↔
      parts = ["a".toList, "b>,c<".toList, "d".toList]) ∧
    splitTopAt ",".toList "b>,c<".toList = ["b>,c<".toList] ∧
    splitTopAt "<".toList "a,b>,c<,d".toList = ["a,b>,c<,d".toList] := by
  have hparts : splitTopAt ",".toList "a,b>,c<,d".toList =
      ["a".toList, "b>,c<".toList, "d".toList] := by decide
  obtain ⟨hcut, halone⟩ := (splitTopAt_unique ",".toList "a,b>,c<,d".toList).1 ',' rfl rfl rfl
  refine ⟨⟨rfl, rfl, rfl⟩, fun parts => ?_, halone _ ?_, ?_⟩
  · rw [← hparts]
    exact hcut parts
  · rw [hparts]
    decide
  · refine (splitTopAt_unique "<".toList "a,b>,c<,d".toList).2 fun c hc => ?_
    obtain rfl : '<' = c := (List.cons.inj hc).1
    exact Or.inl rfl

end LuaAtlas.Bracket
