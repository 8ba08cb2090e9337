import LuaAtlas.Proofs.TypeExpr.Cutting
import LuaAtlas.Text.Slice

/-!
# The type at the front of a text

`IsFront` says, without the scan, which beginning of a text is the type at its front, for any text
and any blanks and brackets in it.  `cut?` finds this beginning and no other one (`cut?_eq_some_iff`).

The scan looks at the neighbours of a blank in the whole text, `IsFront` at those in the type.  They
are the same ones, because a type ends with a visible character (`isTrimmed_of_places`): if it ended
with a blank, that blank would have no other neighbours than the one behind the type, and the scan
would have stopped there.  So a type is its own front, and it comes back when it is cut again.
-/

namespace LuaAtlas.TypeExpr

variable {s t rest front back : Text} {c : Char}

/-- **A joint stands next to a place**: it is the nearest visible character in front of the place or
the nearest one behind it. -/
def NextToJoint (front back : Text) : Prop :=
  isJoint? (Text.trimRight front).getLast? = true ∨ isJoint? (Text.trimLeft back).head? = true

/-- **The type at the front of a text.**  It is a beginning of the text with no blanks at its ends.
Every blank outside its brackets stands next to a joint.  The text ends with the type, or goes on
with a blank outside brackets that does not stand next to a joint. -/
structure IsFront (s t : Text) : Prop where
  isPrefix : t <+: s
  ne_nil : t ≠ []
  trimmed : t.IsTrimmed
  joined : ∀ front c back, t = front ++ c :: back → Text.isBlank c = true →
    Bracket.depthAfter 0 front = 0 → NextToJoint front back
  ends : t = s ∨ ∃ c rest, s = t ++ c :: rest ∧ Text.isBlank c = true ∧
    Bracket.depthAfter 0 t = 0 ∧ ¬NextToJoint t rest

theorem isJoined_iff :
    IsJoined 0 none front c back ↔
      (Text.isBlank c = true → Bracket.depthAfter 0 front = 0 → NextToJoint front back) := by
  rw [IsJoined, NextToJoint, Text.lastVisible_eq, Option.or_none]

/-! ### Neighbours in the type and in the text -/

/-- Behind a blank of a type, the nearest visible character stands in the type. -/
theorem nextToJoint_append_iff (h : (front ++ c :: back).IsTrimmed) (hc : Text.isBlank c = true)
    (rest : Text) : NextToJoint front (back ++ rest) ↔ NextToJoint front back := by
  have hvisible : ∃ d ∈ back, Text.isBlank d = false := by
    cases back using List.reverseRecOn with
    | nil =>
      have hlast := h.2 c (by simp)
      rw [hc] at hlast
      cases hlast
    | append_singleton back d =>
      refine ⟨d, by simp, h.2 d ?_⟩
      rw [← List.cons_append, ← List.append_assoc, List.getLast?_concat]
  obtain ⟨_, d, tail, -, -, htrim⟩ := Text.exists_trimLeft_append hvisible
  have hself := htrim []
  rw [List.append_nil] at hself
  rw [NextToJoint, NextToJoint, htrim rest, hself]
  rfl

/-- **A type has no blanks at its ends.** -/
theorem isTrimmed_of_places (h : (t ++ rest).IsTrimmed)
    (hjoined : ∀ front c back, t = front ++ c :: back → IsJoined 0 none front c (back ++ rest))
    (hends : ∀ c back, rest = c :: back → ¬IsJoined 0 none t c back) : t.IsTrimmed := by
  refine ⟨fun c hc => h.1 c (by rw [List.head?_append, hc]; rfl), fun c hc => ?_⟩
  by_contra hblank
  have hc' : Text.isBlank c = true := by simpa using hblank
  obtain ⟨front, rfl⟩ := List.getLast?_eq_some_iff.1 hc
  cases rest with
  | nil => exact hblank (h.2 c (by simp))
  | cons d back =>
    -- the last blank of the type and the blank behind it have the same neighbours
    refine hends d back rfl ?_
    intro hd hdepth
    have hjoint := hjoined front c [] rfl hc'
    have htrim : Text.trimLeft ([] ++ d :: back) = Text.trimLeft back :=
      List.dropWhile_cons_of_pos hd
    have hlast : Text.lastVisible none (front ++ [c]) = Text.lastVisible none front := by
      simp [Text.lastVisible, hc']
    rw [Bracket.depthAfter_append] at hdepth
    rw [htrim] at hjoint
    rw [hlast]
    refine hjoint (Eq.trans ?_ hdepth)
    exact (Bracket.step_of_isBlank hc' _).symm

/-- The places of a type, seen from the type and from the text. -/
theorem isFront_append_iff (h : (t ++ rest).IsTrimmed) (hne : t ++ rest ≠ []) :
    IsFront (t ++ rest) t ↔
      (∀ front c back, t = front ++ c :: back → IsJoined 0 none front c (back ++ rest)) ∧
        ∀ c back, rest = c :: back → ¬IsJoined 0 none t c back := by
  constructor
  · rintro ⟨-, -, htrimmed, hjoined, hends⟩
    refine ⟨fun front c back ht => isJoined_iff.2 fun hc hdepth => ?_, fun c back hrest => ?_⟩
    · rw [nextToJoint_append_iff (ht ▸ htrimmed) hc]
      exact hjoined front c back ht hc hdepth
    · subst hrest
      rcases hends with heq | ⟨d, tail, heq, hd, hdepth, hnot⟩
      · simp at heq
      · obtain ⟨rfl, rfl⟩ := List.cons.inj (List.append_cancel_left heq)
        exact fun hplace => hnot (isJoined_iff.1 hplace hd hdepth)
  · rintro ⟨hjoined, hends⟩
    have htrimmed := isTrimmed_of_places h hjoined hends
    refine ⟨List.prefix_append .., ?_, htrimmed, fun front c back ht hc hdepth => ?_, ?_⟩
    · rintro rfl
      -- a text that is trimmed does not begin with a blank
      obtain ⟨c, back, hrest⟩ := List.exists_cons_of_ne_nil hne
      refine hends c back hrest fun hc => ?_
      rw [h.1 c (by rw [hrest]; rfl)] at hc
      cases hc
    · rw [← nextToJoint_append_iff (ht ▸ htrimmed) hc rest]
      exact isJoined_iff.1 (hjoined front c back ht) hc hdepth
    · cases rest with
      | nil => exact Or.inl (List.append_nil t).symm
      | cons c back =>
        have hplace := isJoined_iff.not.1 (hends c back rfl)
        push Not at hplace
        exact Or.inr ⟨c, back, rfl, hplace⟩

/-! ### The cut -/

/-- **The scan finds the front of a text**, and a text has no other one. -/
theorem cutFrom_eq_iff_isFront (h : s.IsTrimmed) (hne : s ≠ []) :
    cutFrom 0 none s = t ↔ IsFront s t := by
  rw [cutFrom_eq_iff]
  constructor
  · rintro ⟨rest, rfl, hplaces⟩
    exact (isFront_append_iff h hne).2 hplaces
  · intro hfront
    obtain ⟨rest, rfl⟩ := hfront.isPrefix
    exact ⟨rest, rfl, (isFront_append_iff h hne).1 hfront⟩

theorem cut?_eq_some_iff : cut? s = some t ↔ IsFront (Text.trim s) t := by
  have htrimmed := Text.isTrimmed_trim s
  unfold cut?
  split
  · rename_i htrim
    refine iff_of_false (by simp) fun hfront => hfront.ne_nil ?_
    rw [htrim] at hfront
    exact List.prefix_nil.1 hfront.isPrefix
  · rename_i c cs htrim
    rw [htrim] at htrimmed ⊢
    rw [Option.some_inj, cutFrom_eq_iff_isFront htrimmed (by simp)]

/-- A type is its own front. -/
theorem IsFront.self (h : IsFront s t) : IsFront t t :=
  ⟨List.prefix_rfl, h.ne_nil, h.trimmed, h.joined, Or.inl rfl⟩

/-- **The type from a place in a line on.**  There is none exactly if nothing but blanks is left of
the line.  Otherwise it is the front of what is left, blanks at the ends apart, and it stays the
same when it is cut again. -/
theorem cut?_since (line : Text) (start : Int) :
    let rest := Slice.since start line
    (cut? rest = none ↔ Text.trim rest = []) ∧
    (∀ t, cut? rest = some t ↔ IsFront (Text.trim rest) t) ∧
    ∀ t, cut? rest = some t → cut? (Slice.since 0 t) = some t := by
  intro rest
  refine ⟨cut?_eq_none_iff, fun t => cut?_eq_some_iff, fun t ht => ?_⟩
  have hfront := cut?_eq_some_iff.1 ht
  have hall : Slice.since 0 t = t := by simp [Slice.since, Slice.offset]
  rw [hall, cut?_eq_some_iff, Text.trim_eq_self hfront.trimmed]
  exact hfront.self

/-- Blanks of several sorts around a joint are part of the type, and behind a bracket that closes too
much all blanks are. -/
theorem cut?_since_mixed_blanks :
    let line := "---@param x Foo \t|\u3000 Bar<int, any> rest".toList
    let overclosed := "Foo> | bar baz".toList
    (cut? (Slice.since 11 line) = some "Foo \t|\u3000 Bar<int, any>".toList ∧
      IsFront (Text.trim (Slice.since 11 line)) "Foo \t|\u3000 Bar<int, any>".toList ∧
      cut? (Slice.since 0 "Foo \t|\u3000 Bar<int, any>".toList) =
        some "Foo \t|\u3000 Bar<int, any>".toList) ∧
    IsFront (Text.trim (Slice.since 0 overclosed)) overclosed := by
  intro line overclosed
  have hline : cut? (Slice.since 11 line) = some "Foo \t|\u3000 Bar<int, any>".toList := by decide
  have hoverclosed : cut? (Slice.since 0 overclosed) = some overclosed := by decide
  obtain ⟨-, hfront, hagain⟩ := cut?_since line 11
  exact ⟨⟨hline, (hfront _).1 hline, hagain _ hline⟩,
    ((cut?_since overclosed 0).2.1 _).1 hoverclosed⟩

end LuaAtlas.TypeExpr
