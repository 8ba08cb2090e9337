import LuaAtlas.Proofs.Text.Lines
import LuaAtlas.Proofs.Text.Naming
import LuaAtlas.Proofs.Text.Splitting
import LuaAtlas.TypeExpr.Cut
import LuaAtlas.TypeExpr.Reading

/-!
# Quoted texts as types

A type ends at the first blank outside brackets that has no joint next to it (`cutFrom_eq_iff`); it
is the whole text exactly if there is no such blank (`cutFrom_eq_self_iff`).  Quotes do not count as
brackets, so this is also true of what stands between quotes (`cutFrom_quoted_eq_self_iff`), and a
bar between quotes makes a union (`kind_read_quoted_iff`).
-/

namespace LuaAtlas

/-! ### Visible characters -/

namespace Text

variable {a : Char}

/-- The last visible character of a text, or else the one in front of the text. -/
def lastVisible (last : Option Char) (t : Text) : Option Char :=
  t.foldl (fun last c => if isBlank c then last else some c) last

theorem lastVisible_eq (last : Option Char) (t : Text) :
    lastVisible last t = (trimRight t).getLast?.or last := by
  induction t using List.reverseRecOn with
  | nil => rfl
  | append_singleton t c ih =>
    rw [lastVisible, List.foldl_append]
    show (if isBlank c = true then lastVisible last t else some c) =
      (List.rdropWhile isBlank (t ++ [c])).getLast?.or last
    by_cases hc : isBlank c = true
    · rw [List.rdropWhile_concat_pos _ _ _ hc, ih, ite_cond_eq_true _ _ (eq_true hc)]
      rfl
    · rw [List.rdropWhile_concat_neg _ _ _ hc, List.getLast?_concat,
        ite_cond_eq_false _ _ (eq_false hc)]
      rfl

theorem head?_trimLeft_concat (t : Text) (ha : isBlank a = false) :
    (trimLeft (t ++ [a])).head? = (trimLeft t).head?.or (some a) := by
  unfold trimLeft
  rw [List.dropWhile_append]
  split
  · rename_i hempty
    rw [List.isEmpty_iff.1 hempty, List.dropWhile_cons_of_neg (by simp [ha])]
    rfl
  · rw [List.head?_append]
    cases hdrop : t.dropWhile isBlank with
    | nil => simp_all
    | cons c cs => rfl

/-- The first visible character of a text is the first one of every longer text. -/
theorem head?_trimLeft_of_isPrefix {t u : Text} (h : t <+: u) {c : Char}
    (hc : (trimLeft t).head? = some c) : (trimLeft u).head? = some c := by
  obtain ⟨v, rfl⟩ := h
  have hne : (t.dropWhile isBlank).isEmpty = false := by
    cases hdrop : t.dropWhile isBlank with
    | nil =>
      rw [trimLeft, hdrop] at hc
      cases hc
    | cons => rfl
  rw [trimLeft] at hc ⊢
  rw [List.dropWhile_append, hne]
  simp [hc]

end Text

namespace TypeExpr

/-! ### Where a type ends -/

/-- A blank outside brackets has a joint next to it. -/
def IsJoined (depth : Int) (last : Option Char) (front : Text) (c : Char) (back : Text) : Prop :=
  Text.isBlank c = true → Bracket.depthAfter depth front = 0 →
    isJoint? (Text.lastVisible last front) = true ∨ isJoint? (Text.trimLeft back).head? = true

variable {depth : Int} {last : Option Char} {a : Char} {t : Text}

/-- Only a blank outside brackets can end the type, and only one without a joint. -/
theorem isJoined_nil_iff :
    IsJoined depth last [] a t ↔ ¬ (Text.isBlank a = true ∧
      (depth = 0 && !isJoint? last && !isJoint? (Text.trimLeft t).head?) = true) := by
  simp only [IsJoined, Bracket.depthAfter, Text.lastVisible, List.foldl_nil, Bool.and_eq_true,
    decide_eq_true_eq, Bool.not_eq_true']
  by_cases ha : Text.isBlank a = true
  · by_cases hdepth : depth = 0 <;> cases isJoint? last <;>
      cases isJoint? (Text.trimLeft t).head? <;> simp [ha, hdepth]
  · simp [ha]

theorem cutFrom_of_isJoined (h : IsJoined depth last [] a t) :
    cutFrom depth last (a :: t) =
      a :: cutFrom (Bracket.step depth a) (if Text.isBlank a then last else some a) t := by
  rw [cutFrom]
  by_cases ha : Text.isBlank a = true
  · have hgo := fun hcut => isJoined_nil_iff.1 h ⟨ha, hcut⟩
    rw [ite_cond_eq_true _ _ (eq_true ha), ite_cond_eq_false _ _ (eq_false hgo),
      ite_cond_eq_true _ _ (eq_true ha), Bracket.step_of_isBlank ha]
  · rw [ite_cond_eq_false _ _ (eq_false ha), ite_cond_eq_false _ _ (eq_false ha)]

theorem cutFrom_of_not_isJoined (h : ¬IsJoined depth last [] a t) :
    cutFrom depth last (a :: t) = [] := by
  obtain ⟨ha, hcut⟩ := not_not.1 (isJoined_nil_iff.not.1 h)
  rw [cutFrom, ite_cond_eq_true _ _ (eq_true ha), ite_cond_eq_true _ _ (eq_true hcut)]

/-- Only a blank text holds no type. -/
theorem cut?_eq_none_iff : cut? t = none ↔ Text.trim t = [] := by
  unfold cut?
  split
  · rename_i htrim
    exact iff_of_true rfl htrim
  · rename_i c cs htrim
    exact iff_of_false (by simp) (by simp [htrim])

/-- **Where a type ends.**  All blanks outside its brackets have a joint next to them, and if the
text goes on, it goes on with a blank outside brackets that has none. -/
theorem cutFrom_eq_iff (depth : Int) (last : Option Char) (t u : Text) :
    cutFrom depth last t = u ↔
      ∃ rest, t = u ++ rest ∧
        (∀ front c back, u = front ++ c :: back → IsJoined depth last front c (back ++ rest)) ∧
        ∀ c back, rest = c :: back → ¬IsJoined depth last u c back := by
  induction t generalizing depth last u with
  | nil =>
    constructor
    · rintro rfl
      exact ⟨[], rfl, by simp [cutFrom], by simp⟩
    · rintro ⟨rest, he, -⟩
      exact (List.append_eq_nil_iff.1 he.symm).1.symm
  | cons a t ih =>
    by_cases hplace : IsJoined depth last [] a t
    · rw [cutFrom_of_isJoined hplace]
      cases u with
      | nil =>
        refine iff_of_false (by simp) ?_
        rintro ⟨rest, rfl, -, hends⟩
        exact hends a t rfl hplace
      | cons b u =>
        constructor
        · intro h
          obtain ⟨rfl, hu⟩ := List.cons.inj h
          obtain ⟨rest, rfl, hjoined, hends⟩ := (ih _ _ u).1 hu
          -- a later place sees the depth and the visible character that the first one leaves
          exact ⟨rest, rfl, Text.forall_place_cons.2 ⟨hplace, hjoined⟩, hends⟩
        · rintro ⟨rest, he, hjoined, hends⟩
          obtain ⟨rfl, rfl⟩ := List.cons.inj he
          rw [(ih _ _ u).2 ⟨rest, rfl, (Text.forall_place_cons.1 hjoined).2, hends⟩]
    · rw [cutFrom_of_not_isJoined hplace]
      constructor
      · rintro rfl
        refine ⟨a :: t, rfl, by simp, fun c back he => ?_⟩
        obtain ⟨rfl, rfl⟩ := List.cons.inj he
        exact hplace
      · rintro ⟨rest, he, hjoined, -⟩
        cases u with
        | nil => rfl
        | cons b u =>
          obtain ⟨rfl, rfl⟩ := List.cons.inj he
          exact absurd (hjoined [] a u rfl) hplace

theorem cutFrom_isPrefix (depth : Int) (last : Option Char) (t : Text) :
    cutFrom depth last t <+: t := by
  obtain ⟨rest, ht, -⟩ := (cutFrom_eq_iff depth last t _).1 rfl
  exact ⟨rest, ht.symm⟩

/-- **A type is the whole text** exactly if every blank outside brackets has a joint next to it. -/
theorem cutFrom_eq_self_iff (depth : Int) (last : Option Char) (t : Text) :
    cutFrom depth last t = t ↔
      ∀ front c back, t = front ++ c :: back → IsJoined depth last front c back := by
  rw [cutFrom_eq_iff]
  constructor
  · rintro ⟨rest, he, hjoined, -⟩ front c back ht
    obtain rfl := List.self_eq_append_right.1 he
    simpa using hjoined front c back ht
  · intro h
    exact ⟨[], (List.append_nil t).symm, by simpa using h, by simp⟩

/-! ### Quoted texts -/

/-- A text with quotes around it. -/
def quoted (t : Text) : Text := '"' :: (t ++ ['"'])

theorem isTrimmed_quoted (t : Text) : Text.IsTrimmed (quoted t) :=
  Text.isTrimmed_between (by decide) (by decide) t

theorem isJoint?_or {o : Option Char} {a : Char} (ha : isJoint a = false) :
    isJoint? (o.or (some a)) = isJoint? o := by
  cases o with
  | none => exact ha
  | some c => rfl

/-- **A quoted text is cut at its blanks** like any other one: it stays whole exactly if every blank
outside brackets has a joint next to it between the quotes. -/
theorem cutFrom_quoted_eq_self_iff (t : Text) :
    cutFrom 0 none (quoted t) = quoted t ↔
      ∀ front c back, t = front ++ c :: back → Text.isBlank c = true →
        Bracket.depthAfter 0 front = 0 →
        isJoint? (Text.trimRight front).getLast? = true ∨
          isJoint? (Text.trimLeft back).head? = true := by
  have hfirst : IsJoined 0 none [] '"' (t ++ ['"']) := fun h => absurd h (by decide)
  have hlast : IsJoined 0 none ('"' :: t) '"' [] := fun h => absurd h (by decide)
  rw [cutFrom_eq_self_iff, quoted, Text.forall_place_cons, Text.forall_place_concat,
    and_iff_right hfirst, and_iff_right hlast]
  -- a quote is no joint, so it makes no difference to the blanks next to it
  have hplace (front : Text) (c : Char) (back : Text) :
      IsJoined 0 none ('"' :: front) c (back ++ ['"']) ↔
        (Text.isBlank c = true → Bracket.depthAfter 0 front = 0 →
          isJoint? (Text.trimRight front).getLast? = true ∨
            isJoint? (Text.trimLeft back).head? = true) := by
    show (Text.isBlank c = true → Bracket.depthAfter 0 front = 0 →
      isJoint? (Text.lastVisible (some '"') front) = true ∨
        isJoint? (Text.trimLeft (back ++ ['"'])).head? = true) ↔ _
    rw [Text.lastVisible_eq, Text.head?_trimLeft_concat back (by decide), isJoint?_or (by decide),
      isJoint?_or (by decide)]
  simp only [hplace]

/-- **A quoted text is divided at its bars** like any other one. -/
theorem splitTop_quoted_eq_self_iff (t : Text) :
    Bracket.splitTop '|' (quoted t) = [quoted t] ↔
      ∀ front back, t = front ++ '|' :: back → Bracket.depthAfter 0 front ≠ 0 := by
  have hquote : Bracket.Whole '|' (Bracket.depthAfter 0 t) ['"'] :=
    Bracket.whole_of_not_mem (by decide) _
  rw [Bracket.splitTop_eq_self_iff rfl rfl, quoted, Bracket.whole_cons_iff,
    and_iff_right fun h => absurd h.1 (by decide), Bracket.whole_append_iff]
  exact and_iff_left hquote

theorem suffixForm_quoted (t : Text) : suffixForm .standard (quoted t) = .literal := by
  have hreverse : (quoted t).reverse = '"' :: (t.reverse ++ ['"']) := by simp [quoted]
  have hopened : opened? .standard (quoted t) = none := rfl
  have hgeneric : genericHead? (quoted t) = none := rfl
  have hliteral : Literal.isLiteral (quoted t) = true := by
    have hbetween : Literal.isBetween ['"', '\'', '\x60'] (quoted t) = true :=
      Literal.isBetween_cons_append (by decide) t
    rw [Literal.isLiteral, hbetween]
    rfl
  simp only [suffixForm, hreverse, hopened, plainForm, hgeneric, hliteral, ↓reduceIte]
  rfl

/-- **The form of a quoted text**: a literal, or a union if it is divided at its bars. -/
theorem form_quoted (t : Text) :
    form .standard (quoted t) =
      if Bracket.splitTop '|' (quoted t) = [quoted t] then .literal
      else .union ((Bracket.splitTop '|' (quoted t)).map Text.trim) := by
  have hunion : form .standard (quoted t) = unionForm .standard (quoted t) := rfl
  rw [hunion, unionForm]
  cases hparts : Bracket.splitTop '|' (quoted t) with
  | nil => exact absurd hparts (Bracket.splitAt_ne_nil _ _ _)
  | cons p ps =>
    cases ps with
    | nil =>
      have hjoin := Bracket.join_splitTop '|' (quoted t)
      rw [hparts] at hjoin
      rw [show p = quoted t from hjoin, suffixForm_quoted]
      simp
    | cons q ps => simp

theorem read_quoted {t : Text} (h : Bracket.splitTop '|' (quoted t) = [quoted t]) :
    read .standard (quoted t) = { sketch := .primitive (quoted t) } := by
  rw [read_eq, form_quoted, ite_cond_eq_true _ _ (eq_true h)]
  rfl

theorem kind_read_quoted_iff (t : Text) :
    (read .standard (quoted t)).sketch.kind = .primitive ↔
      Bracket.splitTop '|' (quoted t) = [quoted t] := by
  constructor
  · intro hkind
    by_contra hne
    rw [read_eq, form_quoted, ite_cond_eq_false _ _ (eq_false hne)] at hkind
    cases hkind
  · intro h
    rw [read_quoted h]
    rfl

end TypeExpr

end LuaAtlas
