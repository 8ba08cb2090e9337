import LuaAtlas.Proofs.TypeExpr.Described

/-!
# Lists of return values

Return values are written with commas between them, each with a name behind its type if wanted, and
a comment may follow the last (`ReturnValue.listText`).  The commas of a list stand outside all
brackets, so each value is a part of its own, whose type is cut out exactly; one name behind it does
not end the list (`endsReturnValue_tail`), while the comment, whose first word is `#`, does
(`endsReturnValue_comment`).  So the types of the values are read back, whatever the comment says
(`returnTypes_values`).
-/

namespace LuaAtlas

open LuaAtlas.Bracket

/-! ### Words -/

namespace Text

theorem isBlank_of_mem_space : ∀ c ∈ [' '], isBlank c = true := List.all_eq_true.1 rfl

/-- **The words of a text with a blank in it** are those on both sides. -/
theorem words_append_cons {c : Char} (hc : isBlank c = true) (t u : Text) :
    words (t ++ c :: u) = words t ++ words u := by
  rw [words, List.splitOnP_append_cons t u hc, List.filter_append]
  rfl

theorem words_cons {c : Char} (hc : isBlank c = true) (t : Text) : words (c :: t) = words t :=
  words_append_cons hc [] t

theorem words_eq_singleton {t : Text} (hne : t ≠ []) (h : ∀ c ∈ t, isBlank c = false) :
    words t = [t] := by
  rw [words, List.splitOnP_eq_singleton h]
  simp [hne]

/-- Blanks at the end belong to no word. -/
theorem words_trimRight (t : Text) : words (trimRight t) = words t := by
  induction t using List.reverseRecOn with
  | nil => rfl
  | append_singleton t c ih =>
    show words (List.rdropWhile isBlank (t ++ [c])) = words (t ++ [c])
    by_cases hc : isBlank c = true
    · rw [List.rdropWhile_concat_pos _ _ _ hc, words_append_cons hc]
      exact ih.trans (List.append_nil _).symm
    · rw [List.rdropWhile_concat_neg _ _ _ hc]

end Text

/-! ### Values as they are written -/

/-- The name of a return value: a name or three dots, with a question mark if wanted. -/
structure ReturnName where
  name : Text
  optional : Bool
  isParam : Name.IsParam name

namespace ReturnName

/-- The name as it is written. -/
def text (n : ReturnName) : Text := if n.optional then n.name ++ ['?'] else n.name

variable (n : ReturnName)

theorem exists_mark : ∃ mark, n.text = n.name ++ mark ∧ (mark = [] ∨ mark = ['?']) := by
  unfold text
  split
  · exact ⟨['?'], rfl, Or.inr rfl⟩
  · exact ⟨[], (List.append_nil _).symm, Or.inl rfl⟩

theorem text_ne_nil : n.text ≠ [] := by
  obtain ⟨mark, htext, -⟩ := n.exists_mark
  rw [htext]
  exact List.append_ne_nil_of_left_ne_nil n.isParam.ne_nil mark

/-- The characters of such a name. -/
theorem isDottedChar_or {c : Char} (h : c ∈ n.text) : Name.IsDottedChar c ∨ c = '?' := by
  obtain ⟨mark, htext, hmark⟩ := n.exists_mark
  rw [htext, List.mem_append] at h
  rcases h with h | h
  · exact Or.inl (n.isParam.isDottedChar h)
  · rcases hmark with rfl | rfl
    · cases h
    · exact Or.inr (List.mem_singleton.1 h)

theorem ne_of_mem {c d : Char} (h : c ∈ n.text) (hd : Name.isRest d = false) (hdot : d ≠ '.')
    (hmark : d ≠ '?') : c ≠ d := by
  rcases n.isDottedChar_or h with h | rfl
  · exact Name.ne_of_isDottedChar h hd hdot
  · exact hmark.symm

theorem isBlank_of_mem {c : Char} (h : c ∈ n.text) : Text.isBlank c = false := by
  rcases n.isDottedChar_or h with h | rfl
  · exact Name.isBlank_of_isDottedChar h
  · decide

theorem isJoint_of_mem {c : Char} (h : c ∈ n.text) : TypeExpr.isJoint c = false := by
  have hne (d : Char) (hd : Name.isRest d = false) (hdot : d ≠ '.') (hmark : d ≠ '?') :
      (c == d) = false := beq_eq_false_iff_ne.2 (n.ne_of_mem h hd hdot hmark)
  rw [TypeExpr.isJoint, hne '|' (by decide) (by decide) (by decide),
    hne ',' (by decide) (by decide) (by decide), hne ':' (by decide) (by decide) (by decide)]
  rfl

theorem nested_text : Nested (· ≠ ',') n.text := by
  refine Nested.of_forall fun c hc => ?_
  have hcomma := n.ne_of_mem hc (d := ',') (by decide) (by decide) (by decide)
  rcases n.isDottedChar_or hc with h | rfl
  · exact ⟨Name.isOpener_of_isDottedChar h, Name.isCloser_of_isDottedChar h, hcomma⟩
  · exact ⟨rfl, rfl, hcomma⟩

theorem isReturnName_text : TypeExpr.isReturnName n.text = true := by
  obtain ⟨mark, htext, hmark⟩ := n.exists_mark
  have hread : Name.readParam? n.text = some (n.name, mark) := by
    rw [htext]
    refine Name.readParam?_append n.isParam fun c hc => ?_
    rcases hmark with rfl | rfl
    · cases hc
    · cases hc
      decide
  rcases hmark with rfl | rfl <;> simp [TypeExpr.isReturnName, hread]

end ReturnName

/-- A return value: its type, and its name if it has one. -/
structure ReturnValue where
  type : TypeTree
  wellFormed : type.WellFormed
  name : Option ReturnName

namespace ReturnValue

/-- What stands behind the type. -/
def tail (v : ReturnValue) : Text := v.name.elim [] (' ' :: ·.text)

/-- The value as it is written. -/
def text (v : ReturnValue) : Text := v.type.render ++ v.tail

variable (v : ReturnValue)

theorem nested_text : Nested (· ≠ ',') v.text := by
  have htype : Nested (· ≠ ',') v.type.render :=
    (TypeTree.written_render v.wellFormed).nested.mono fun _ hc => hc.1
  refine htype.append ?_
  unfold tail
  cases v.name with
  | none => exact .nil
  | some n => exact .plain rfl rfl (by decide) n.nested_text

/-- The name ends the type, whatever follows it; without one, what follows has to. -/
theorem ending_tail_append {rest : Text} (h : TypeExpr.Ending rest) :
    TypeExpr.Ending (v.tail ++ rest) := by
  unfold tail
  cases v.name with
  | none => exact h
  | some n =>
    show TypeExpr.Ending ([' '] ++ (n.text ++ rest))
    refine TypeExpr.ending_append Text.isBlank_of_mem_space (fun c hc => ?_) fun _ =>
      List.cons_ne_nil _ _
    rw [List.head?_append_of_ne_nil _ n.text_ne_nil] at hc
    have hmem := List.mem_of_head? hc
    exact ⟨n.isBlank_of_mem hmem, n.isJoint_of_mem hmem⟩

theorem words_tail : Text.words v.tail = (v.name.map (·.text)).toList := by
  unfold tail
  cases v.name with
  | none => rfl
  | some n =>
    show Text.words (' ' :: n.text) = [n.text]
    rw [Text.words_cons (by decide)]
    exact Text.words_eq_singleton n.text_ne_nil fun c => n.isBlank_of_mem

/-- Behind a name, or without one, another value may follow. -/
theorem endsReturnValue_tail : TypeExpr.endsReturnValue (Text.trimRight v.tail) = true := by
  rw [TypeExpr.endsReturnValue, Text.words_trimRight, words_tail]
  cases v.name with
  | none => rfl
  | some n => exact n.isReturnName_text

/-- A comment ends the list of values. -/
theorem endsReturnValue_comment (comment : Text) :
    TypeExpr.endsReturnValue (Text.trimRight (v.tail ++ ' ' :: '#' :: ' ' :: comment)) =
      false := by
  have hmark : Text.words ('#' :: ' ' :: comment) = ['#'] :: Text.words comment :=
    Text.words_append_cons (c := ' ') (by decide) ['#'] comment
  rw [TypeExpr.endsReturnValue, Text.words_trimRight, Text.words_append_cons (by decide),
    words_tail, hmark]
  cases v.name with
  | none =>
    cases Text.words comment with
    | nil => decide
    | cons w ws => rfl
  | some n => rfl

/-! ### Lists of values -/

/-- **Values as they are written in a row**, with a comment behind the last if wanted. -/
def listText (values : List ReturnValue) (comment : Option Text) : Text :=
  Text.join ", ".toList (values.map text) ++ comment.elim [] (" # ".toList ++ ·)

/-- The part of a list that a value starts: its type, and the other parts if what stands behind the
type allows them. -/
theorem returnTypesOf_cons {front rest : Text} (hfront : ∀ c ∈ front, Text.isBlank c = true)
    (hrest : TypeExpr.Ending rest) (parts : List Text) :
    TypeExpr.returnTypesOf ((front ++ (v.type.render ++ rest)) :: parts) =
      v.type.render ::
        if TypeExpr.endsReturnValue (Text.trimRight rest) then TypeExpr.returnTypesOf parts
        else [] := by
  rw [TypeExpr.returnTypesOf, TypeTree.cut?_render_append v.wellFormed hfront hrest]
  simp only
  rw [TypeTree.trim_render_append v.wellFormed hfront, List.drop_left]

/-- A value does not end the list. -/
theorem returnTypesOf_text_cons {front : Text} (hfront : ∀ c ∈ front, Text.isBlank c = true)
    (parts : List Text) :
    TypeExpr.returnTypesOf ((front ++ v.text) :: parts) =
      v.type.render :: TypeExpr.returnTypesOf parts := by
  have hending : TypeExpr.Ending v.tail := by
    have happend : TypeExpr.Ending (v.tail ++ []) := v.ending_tail_append ⟨nofun, nofun⟩
    rwa [List.append_nil] at happend
  rw [text, returnTypesOf_cons v hfront hending, endsReturnValue_tail]
  rfl

theorem nested_of_isBlank {front : Text} (h : ∀ c ∈ front, Text.isBlank c = true) :
    Nested (· ≠ ',') front := by
  refine Nested.of_forall fun c hc => ?_
  obtain ⟨ho, hclose⟩ := isBracket_of_isBlank (h c hc)
  exact ⟨ho, hclose, Text.ne_of_isBlank (h c hc) (by decide)⟩

/-- The last value with a comment behind it: no comma of the comment starts another value. -/
theorem returnTypesOf_comment {front : Text} (hfront : ∀ c ∈ front, Text.isBlank c = true)
    (comment : Text) :
    TypeExpr.returnTypesOf (splitTop ',' (front ++ (v.text ++ " # ".toList ++ comment))) =
      [v.type.render] := by
  have hmarked : Nested (· ≠ ',') (front ++ (v.text ++ [' ', '#'])) :=
    (nested_of_isBlank hfront).append (v.nested_text.append
      (.plain rfl rfl (by decide) (.plain rfl rfl (by decide) .nil)))
  obtain ⟨part, parts, hparts⟩ := exists_splitTop_cons (show ' ' ≠ ',' by decide) comment
  have hsplit : splitTop ',' (front ++ (v.text ++ " # ".toList ++ comment)) =
      (front ++ (v.type.render ++ (v.tail ++ ' ' :: '#' :: ' ' :: part))) :: parts := by
    have happend := splitAt_append hmarked (Int.le_refl 0) (fun _ c hc => hc) (' ' :: comment)
    rw [← splitTop, ← splitTop, hparts] at happend
    simpa [text, prependFirst] using happend
  have hending : TypeExpr.Ending (v.tail ++ ' ' :: '#' :: ' ' :: part) := by
    apply v.ending_tail_append
    show TypeExpr.Ending ([' '] ++ '#' :: ' ' :: part)
    refine TypeExpr.ending_append Text.isBlank_of_mem_space ?_ fun _ => List.cons_ne_nil _ _
    rintro c ⟨⟩
    decide
  rw [hsplit, returnTypesOf_cons v hfront hending, endsReturnValue_comment]
  rfl

/-- **The parts of a list are its values**, behind any blanks. -/
theorem returnTypesOf_values {values : List ReturnValue} (hne : values ≠ [])
    (comment : Option Text) {front : Text} (hfront : ∀ c ∈ front, Text.isBlank c = true) :
    TypeExpr.returnTypesOf (splitTop ',' (front ++ listText values comment)) =
      values.map (·.type.render) := by
  induction values generalizing front with
  | nil => exact absurd rfl hne
  | cons v values ih =>
    cases values with
    | nil =>
      cases comment with
      | none =>
        have hpart : listText [v] none = v.text := by simp [listText, Text.join]
        rw [hpart, splitTop_eq_singleton ((nested_of_isBlank hfront).append v.nested_text),
          returnTypesOf_text_cons v hfront]
        rfl
      | some comment =>
        have hpart : listText [v] (some comment) = v.text ++ " # ".toList ++ comment := by
          simp [listText, Text.join]
        rw [hpart, returnTypesOf_comment v hfront]
        rfl
    | cons u us =>
      have hpart : front ++ listText (v :: u :: us) comment =
          front ++ v.text ++ ',' :: ([' '] ++ listText (u :: us) comment) := by
        simp [listText, Text.join]
      have htail : TypeExpr.returnTypesOf (splitTop ',' ([' '] ++ listText (u :: us) comment)) =
          (u :: us).map (·.type.render) := ih (List.cons_ne_nil u us) Text.isBlank_of_mem_space
      rw [hpart, splitTop_append_cons ((nested_of_isBlank hfront).append v.nested_text) rfl rfl,
        returnTypesOf_text_cons v hfront, htail]
      rfl

/-- **The types of return values are read back**, whatever the comment behind them says. -/
theorem returnTypes_values {values : List ReturnValue} (hne : values ≠ [])
    (comment : Option Text) :
    TypeExpr.returnTypes (listText values comment) = values.map (·.type.render) := by
  show TypeExpr.returnTypesOf (splitTop ',' ([] ++ listText values comment)) = _
  exact returnTypesOf_values hne comment nofun

/-- Values with and without names, whose types hold blanks, commas and colons, in front of a comment
with a comma and an open bracket. -/
theorem returnTypes_values_three :
    ∃ values : List ReturnValue, values ≠ [] ∧
      listText values (some "left, (over".toList) =
        "fun(x: A, y: A): string cb?, table<string, A[]>, A|nil ... # left, (over".toList ∧
      TypeExpr.returnTypes (listText values (some "left, (over".toList)) =
        ["fun(x: A, y: A): string".toList, "table<string, A[]>".toList, "A|nil".toList] := by
  have hA : (TypeTree.ref "A".toList).WellFormed := .ref (by decide) (by decide) (by decide)
  have hstring : (TypeTree.prim "string".toList).WellFormed := .prim (by decide)
  let callback : ReturnValue :=
    { type := .function [("x".toList, .ref "A".toList), ("y".toList, .ref "A".toList)]
        (some (.prim "string".toList))
      wellFormed := by
        refine .function (by decide) ?_ fun _ h => Option.some_inj.1 h ▸ hstring
        simp only [List.forall_mem_cons]
        exact ⟨hA, hA, nofun⟩
      name := some ⟨"cb".toList, true, Or.inl (by decide)⟩ }
  let lists : ReturnValue :=
    { type := .generic "table".toList [.prim "string".toList, .array (.ref "A".toList)]
      wellFormed := by
        refine .generic (by decide) (by decide) (by simp) (fun h => absurd h (by decide))
          (fun h => absurd h (by decide)) (fun _ => rfl) ?_
        simp only [List.forall_mem_cons]
        exact ⟨hstring, .array hA, nofun⟩
      name := none }
  let others : ReturnValue :=
    { type := .union [.ref "A".toList, .prim "nil".toList]
      wellFormed := by
        refine .union (by decide) ?_
        simp only [List.forall_mem_cons]
        exact ⟨hA, .prim (by decide), nofun⟩
      name := some ⟨"...".toList, false, Or.inr rfl⟩ }
  refine ⟨[callback, lists, others], List.cons_ne_nil _ _, rfl, ?_⟩
  exact returnTypes_values (List.cons_ne_nil _ _) _

end ReturnValue

end LuaAtlas
