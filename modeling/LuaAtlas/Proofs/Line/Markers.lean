import LuaAtlas.Line.Tag
import LuaAtlas.Proofs.Declaration.Blocks
import LuaAtlas.Proofs.Declaration.Routines
import LuaAtlas.Proofs.Line.Written

/-!
# Five kinds of marker lines

A kind of marker line is given by its shape: the ways in which such a line can be put together from
blanks, names, argument lists and other text.  `Marker.shapes` has the shapes of the five kinds, in
the order of `Marker.readers`.  A shape does not say how far a name reaches, so one line may have it
in several ways; the reader of the kind takes the longest names, and it reads a line exactly if the
line has the shape in some way (`isSome_readMethod?_iff` and the others).

No line has two of the shapes.  The comments differ in their tags, and a function line starts with
another visible character.  Methods and functions begin alike, and are told apart by what stands
behind the first name: a dot or colon, or else a blank or the argument list (`not_functionLine`).
So the order of the readers does not matter (`readers_exclusive`), and a line that is written for a
marker gives back what was written (`classify_written`).  An alias line with a text behind the name
has a type there (`Draft.enterAliasLine_of_mem`): the report that it has none is never made.
-/

namespace LuaAtlas

namespace Marker

variable {line t : Text}

/-! ### Shapes -/

/-- **A comment that declares a class or an enumeration**: a tag, an attribute if wanted and the
name.  Any text may follow, also one that goes on with the name. -/
def TypeLine (tag line : Text) : Prop :=
  ∃ blanks : Blanks, ∃ attr name rest, IsAttribute attr ∧ Name.isDotted name = true ∧
    line = tag ++ (blanks.text ++ (attr ++ (name ++ rest)))

/-- What may follow the name of an alias: blanks up to the end of the line, with a type between
them if wanted. -/
def IsTarget (t : Text) : Prop :=
  (∀ c ∈ t, Text.isBlank c = true) ∨
    ∃ gap : Blanks, ∃ target back, target ≠ [] ∧
      (∀ c, target.head? = some c → Text.isBlank c = false) ∧ '\n' ∉ target ∧
      (∀ c ∈ back, Text.isBlank c = true) ∧ t = gap.text ++ (target ++ back)

/-- **A comment that declares an alias.** -/
def AliasLine (line : Text) : Prop :=
  ∃ blanks : Blanks, ∃ name tail, Name.isDotted name = true ∧ IsTarget tail ∧
    line = "---@alias".toList ++ (blanks.text ++ (name ++ tail))

/-- **A line that declares a method.** -/
def MethodLine (line : Text) : Prop :=
  ∃ lead, ∃ blanks : Blanks, ∃ owner separator name gap arguments rest,
    (∀ c ∈ lead, Text.isBlank c = true) ∧ Name.isDotted owner = true ∧
    (separator = ':' ∨ separator = '.') ∧ Name.isName name = true ∧
    (∀ c ∈ gap, Text.isBlank c = true) ∧ ')' ∉ arguments ∧
    line = lead ++ ("function".toList ++ (blanks.text ++
      (owner ++ separator :: (name ++ (gap ++ '(' :: (arguments ++ ')' :: rest))))))

/-- **A line that declares a global function.** -/
def FunctionLine (line : Text) : Prop :=
  ∃ lead, ∃ blanks : Blanks, ∃ name gap arguments rest,
    (∀ c ∈ lead, Text.isBlank c = true) ∧ Name.isName name = true ∧
    (∀ c ∈ gap, Text.isBlank c = true) ∧ ')' ∉ arguments ∧
    line = lead ++ ("function".toList ++
      (blanks.text ++ (name ++ (gap ++ '(' :: (arguments ++ ')' :: rest)))))

/-- **The shapes of the five kinds of marker lines**, in the order of their readers. -/
def shapes : List (Text → Prop) :=
  [TypeLine "---@class".toList, TypeLine "---@enum".toList, AliasLine, MethodLine, FunctionLine]

/-! ### Readers and shapes -/

theorem isSome_headOf?_iff {tag : Text} : (headOf? tag line).isSome = true ↔ TypeLine tag line := by
  constructor
  · intro h
    obtain ⟨⟨name, rest⟩, hhead⟩ := Option.isSome_iff_exists.1 h
    obtain ⟨t, ht, hhead⟩ := Option.bind_eq_some_iff.1 hhead
    obtain ⟨u, hu, hread⟩ := Option.bind_eq_some_iff.1 hhead
    obtain ⟨blanks, rfl, -⟩ := Text.skipBlanks?_eq_some_iff.1 hu
    obtain ⟨attr, hattr, hsplit⟩ := exists_skipAttribute u
    refine ⟨blanks, attr, name, rest, hattr, Name.isDotted_of_readDotted? hread, ?_⟩
    rw [Name.readDotted?_append hread, ← hsplit]
    exact Text.after?_eq_some_iff.1 ht
  · rintro ⟨blanks, attr, name, rest, hattr, hname, rfl⟩
    rw [headOf?_append_eq blanks hattr (isRest_head_of_isDotted hname rest)]
    obtain ⟨c, cs, rfl, hc⟩ := Name.exists_cons_of_isDotted hname
    rw [List.cons_append, Name.readDotted?, if_pos hc]
    rfl

theorem isSome_readClass?_iff :
    (readClass? line).isSome = true ↔ TypeLine "---@class".toList line := by
  rw [readClass?_eq, Option.isSome_map, isSome_headOf?_iff]

theorem isSome_readEnum?_iff :
    (readEnum? line).isSome = true ↔ TypeLine "---@enum".toList line := by
  rw [readEnum?_eq, Option.isSome_map, isSome_headOf?_iff]

/-- What may follow the name of an alias is what its reader takes. -/
theorem isTarget_of_skipBlanks? {tail u : Text} (hne : Text.trimLeft tail ≠ [])
    (hskip : Text.skipBlanks? tail = some u) (hline : '\n' ∉ Text.trimRight u) :
    IsTarget tail := by
  obtain ⟨gap, rfl, hvisible⟩ := Text.skipBlanks?_eq_some_iff.1 hskip
  have htrim : Text.trimLeft (gap.text ++ u) = u :=
    Text.trimLeft_append_of_visible gap.isBlank hvisible
  obtain ⟨back, hback, hblank⟩ := Text.exists_trimLeft_eq (gap.text ++ u)
  rw [Text.trim, htrim] at hback
  rw [htrim] at hne
  obtain ⟨c, cs, rfl⟩ := List.exists_cons_of_ne_nil hne
  refine Or.inr ⟨gap, Text.trimRight (c :: cs), back, fun hnil => ?_, fun d hd => ?_, hline, hblank,
    congrArg (gap.text ++ ·) hback⟩
  · -- a type that is trimmed away would be blank from its first character on
    rw [hnil, List.nil_append] at hback
    have hc := hvisible c rfl
    rw [hblank c (hback ▸ List.mem_cons_self ..)] at hc
    cases hc
  · have hhead : (c :: cs).head? = some d := by
      rw [hback, List.head?_append, hd]
      rfl
    exact hvisible d hhead

theorem isSome_readAlias?_iff : (readAlias? line).isSome = true ↔ AliasLine line := by
  constructor
  · intro h
    obtain ⟨r, hr⟩ := Option.isSome_iff_exists.1 h
    unfold readAlias? at hr
    simp only [Option.bind_eq_bind, Option.bind_eq_some_iff] at hr
    obtain ⟨t, ht, u, hu, ⟨name, tail⟩, hread, hr⟩ := hr
    obtain ⟨blanks, hblanks, -⟩ := Text.skipBlanks?_eq_some_iff.1 hu
    have hline : line = "---@alias".toList ++ (blanks.text ++ (name ++ tail)) := by
      rw [Name.readDotted?_append hread, ← hblanks]
      exact Text.after?_eq_some_iff.1 ht
    refine ⟨blanks, name, tail, Name.isDotted_of_readDotted? hread, ?_, hline⟩
    simp only at hr
    split at hr
    · rename_i hnil
      exact Or.inl (List.dropWhile_eq_nil_iff.1 hnil)
    · rename_i hne
      obtain ⟨w, hw, hr⟩ := Option.bind_eq_some_iff.1 hr
      split at hr
      · cases hr
      · rename_i hfeed
        exact isTarget_of_skipBlanks? hne hw (by simpa using hfeed)
  · rintro ⟨blanks, name, tail, hname, htail, rfl⟩
    rcases htail with hblank | ⟨gap, target, back, hne, hvisible, hline, hback, rfl⟩
    · rw [readAlias?_append blanks hname hblank]
      rfl
    · -- the blanks at the end of the type go to what follows it
      obtain ⟨more, hmore, hblank⟩ := Text.exists_trimLeft_eq target
      rw [Text.trimLeft_eq_self hvisible] at hmore
      obtain ⟨c, cs, rfl⟩ := List.exists_cons_of_ne_nil hne
      have htrim : Text.trim (c :: cs) ≠ [] :=
        Text.trim_ne_nil (List.mem_cons_self ..) (hvisible c rfl)
      have hfeed : '\n' ∉ Text.trim (c :: cs) :=
        fun hmem => hline ((Text.trim_isInfix _).subset hmem)
      have hend : ∀ d ∈ more ++ back, Text.isBlank d = true :=
        List.forall_mem_append.2 ⟨hblank, hback⟩
      rw [hmore, List.append_assoc, readAlias?_append_target blanks gap hname htrim
        (Text.isTrimmed_trim _) hfeed hend]
      rfl

theorem isSome_readMethod?_iff : (readMethod? line).isSome = true ↔ MethodLine line := by
  constructor
  · intro h
    obtain ⟨r, hr⟩ := Option.isSome_iff_exists.1 h
    unfold readMethod? at hr
    simp only [Option.bind_eq_bind, Option.bind_eq_some_iff] at hr
    obtain ⟨t, ht, ⟨dotted, tail⟩, hread, hr⟩ := hr
    obtain ⟨lead, blanks, hlead, hline, -⟩ := skipFunction?_eq_some_iff.1 ht
    have hdotted := Name.isDotted_of_readDotted? hread
    have happend := Name.readDotted?_append hread
    simp only at hr
    split at hr
    · rename_i cs
      obtain ⟨⟨name, u⟩, hname, hr⟩ := Option.bind_eq_some_iff.1 hr
      obtain ⟨⟨arguments, rest⟩, hlist, -⟩ := Option.bind_eq_some_iff.1 hr
      obtain ⟨gap, hgap, hu, harguments⟩ := readArguments?_eq_some_iff.1 hlist
      refine ⟨lead, blanks, dotted, ':', name, gap, arguments, rest, hlead, hdotted, Or.inl rfl,
        Name.isName_of_read? hname, hgap, harguments, ?_⟩
      rw [hline, ← happend, ← Name.read?_append hname, ← hu]
    · obtain ⟨⟨owner, name⟩, hsplit, hr⟩ := Option.bind_eq_some_iff.1 hr
      obtain ⟨⟨arguments, rest⟩, hlist, -⟩ := Option.bind_eq_some_iff.1 hr
      obtain ⟨gap, hgap, hu, harguments⟩ := readArguments?_eq_some_iff.1 hlist
      obtain ⟨rfl, howner, hname⟩ := (Name.splitLastDot?_eq_some_iff hdotted).1 hsplit
      refine ⟨lead, blanks, owner, '.', name, gap, arguments, rest, hlead, howner, Or.inr rfl,
        hname, hgap, harguments, ?_⟩
      rw [hline, ← happend, hu, List.append_assoc, List.cons_append]
  · rintro ⟨lead, blanks, owner, separator, name, gap, arguments, rest, hlead, howner, hseparator,
      hname, hgap, harguments, rfl⟩
    rw [readMethod?_append blanks hlead howner hseparator hname hgap harguments]
    rfl

theorem isSome_readFunction?_iff : (readFunction? line).isSome = true ↔ FunctionLine line := by
  constructor
  · intro h
    obtain ⟨r, hr⟩ := Option.isSome_iff_exists.1 h
    unfold readFunction? at hr
    simp only [Option.bind_eq_bind, Option.bind_eq_some_iff] at hr
    obtain ⟨t, ht, ⟨name, u⟩, hread, ⟨arguments, rest⟩, hlist, -⟩ := hr
    obtain ⟨lead, blanks, hlead, hline, -⟩ := skipFunction?_eq_some_iff.1 ht
    obtain ⟨gap, hgap, hu, harguments⟩ := readArguments?_eq_some_iff.1 hlist
    refine ⟨lead, blanks, name, gap, arguments, rest, hlead, Name.isName_of_read? hread, hgap,
      harguments, ?_⟩
    rw [hline, ← Name.read?_append hread]
    exact hu ▸ rfl
  · rintro ⟨lead, blanks, name, gap, arguments, rest, hlead, hname, hgap, harguments, rfl⟩
    rw [readFunction?_append blanks hlead hname hgap harguments]
    rfl

/-- **A reader reads a line exactly if the line has the shape of its kind.** -/
theorem forall₂_readers_shapes (line : Text) :
    List.Forall₂ (fun read shape => (read line).isSome = true ↔ shape line) readers shapes :=
  .cons isSome_readClass?_iff <| .cons isSome_readEnum?_iff <| .cons isSome_readAlias?_iff <|
    .cons isSome_readMethod?_iff <| .cons isSome_readFunction?_iff .nil

/-! ### No line has two shapes -/

/-- Two tags that differ do not begin the same line. -/
theorem not_prefix_of_prefix {tag other : Text} (htag : ¬ tag <+: other) (hother : ¬ other <+: tag)
    (h : tag <+: line) : ¬ other <+: line := fun h' =>
  (List.prefix_or_prefix_of_prefix h h').elim htag hother

theorem TypeLine.isPrefix {tag : Text} (h : TypeLine tag line) : tag <+: line := by
  obtain ⟨blanks, attr, name, rest, -, -, rfl⟩ := h
  exact List.prefix_append _ _

theorem AliasLine.isPrefix (h : AliasLine line) : "---@alias".toList <+: line := by
  obtain ⟨blanks, name, tail, -, -, rfl⟩ := h
  exact List.prefix_append _ _

/-- The line of a method or function starts with the word `function`. -/
theorem head?_of_skipFunction? (h : skipFunction? line = some t) :
    (Text.trimLeft line).head? = some 'f' := by
  obtain ⟨lead, blanks, hlead, rfl, -⟩ := skipFunction?_eq_some_iff.1 h
  rw [Text.trimLeft_append_of_visible hlead (by rintro c ⟨⟩; decide)]
  rfl

theorem MethodLine.exists_skipFunction? (h : MethodLine line) :
    ∃ t, skipFunction? line = some t := by
  obtain ⟨r, hr⟩ := Option.isSome_iff_exists.1 (isSome_readMethod?_iff.2 h)
  exact skipFunction?_of_readMethod? hr

theorem FunctionLine.exists_skipFunction? (h : FunctionLine line) :
    ∃ t, skipFunction? line = some t := by
  obtain ⟨r, hr⟩ := Option.isSome_iff_exists.1 (isSome_readFunction?_iff.2 h)
  exact skipFunction?_of_readFunction? hr

/-- A comment does not start with the word `function`. -/
theorem skipFunction?_eq_none {tag : Text} (htag : '-' :: tag <+: line) :
    skipFunction? line = none := by
  obtain ⟨rest, rfl⟩ := htag
  rfl

/-- **Behind the first name of a method's line** stands a dot or a colon. -/
theorem head?_dropWhile_owner {owner : Text} {separator : Char}
    (howner : ∀ c ∈ owner, Name.IsDottedChar c) (hseparator : separator = ':' ∨ separator = '.')
    (rest : Text) :
    ∃ c, ((owner ++ separator :: rest).dropWhile Name.isRest).head? = some c ∧
      (c = ':' ∨ c = '.') := by
  induction owner with
  | nil =>
    have hstop : ¬ Name.isRest separator = true := by
      rcases hseparator with rfl | rfl <;> decide
    rw [List.nil_append, List.dropWhile_cons_of_neg hstop]
    exact ⟨separator, rfl, hseparator⟩
  | cons c owner ih =>
    obtain ⟨hc, howner⟩ := List.forall_mem_cons.1 howner
    rcases hc with hc | rfl
    · rw [List.cons_append, List.dropWhile_cons_of_pos hc]
      exact ih howner
    · rw [List.cons_append, List.dropWhile_cons_of_neg (by decide)]
      exact ⟨'.', rfl, Or.inr rfl⟩

/-- **Behind the name of a function** stands a blank or the argument list. -/
theorem head?_dropWhile_name {name gap : Text} (hname : Name.isName name = true)
    (hgap : ∀ c ∈ gap, Text.isBlank c = true) (rest : Text) :
    ∃ c, ((name ++ (gap ++ '(' :: rest)).dropWhile Name.isRest).head? = some c ∧
      (Text.isBlank c = true ∨ c = '(') := by
  have hrest : ∀ c ∈ name, Name.isRest c = true := by
    intro c hc
    by_contra hnot
    exact Name.not_mem_of_isName hname (eq_false_of_ne_true hnot) hc
  have hstop : (gap ++ '(' :: rest).dropWhile Name.isRest = gap ++ '(' :: rest := by
    cases ht : gap ++ '(' :: rest with
    | nil => rfl
    | cons c t =>
      have hc := isRest_head_arguments hgap rest c (by rw [ht]; rfl)
      rw [List.dropWhile_cons_of_neg (by simp [hc])]
  rw [List.dropWhile_append_of_pos hrest, hstop]
  obtain ⟨c, t, ht⟩ := List.exists_cons_of_ne_nil
    (List.append_ne_nil_of_right_ne_nil gap (List.cons_ne_nil '(' rest))
  rw [ht]
  exact ⟨c, rfl, head_arguments hgap (by rw [ht]; rfl)⟩

/-- **A method's line is no function's line.** -/
theorem MethodLine.not_functionLine (h : MethodLine line) : ¬ FunctionLine line := by
  rintro ⟨lead', blanks', name', gap', arguments', rest', hlead', hname', hgap', -, rfl⟩
  obtain ⟨lead, blanks, owner, separator, name, gap, arguments, rest, hlead, howner, hseparator,
    -, -, -, hline⟩ := h
  have hfunction := skipFunction?_append blanks' hlead' (Name.isDotted_of_isName hname')
    (gap' ++ '(' :: (arguments' ++ ')' :: rest'))
  rw [hline, skipFunction?_append blanks hlead howner] at hfunction
  obtain ⟨c, hc, hmethod⟩ := head?_dropWhile_owner (Name.isDottedChar_of_mem howner) hseparator
    (name ++ (gap ++ '(' :: (arguments ++ ')' :: rest)))
  obtain ⟨d, hd, hother⟩ := head?_dropWhile_name hname' hgap' (arguments' ++ ')' :: rest')
  rw [Option.some.inj hfunction, hd, Option.some_inj] at hc
  subst hc
  rcases hmethod with rfl | rfl
  · exact absurd hother (by decide)
  · exact absurd hother (by decide)

/-- A comment is no method's and no function's line. -/
theorem not_routine_of_comment {tag : Text} (htag : '-' :: tag <+: line) :
    ¬ MethodLine line ∧ ¬ FunctionLine line := by
  have hnone := skipFunction?_eq_none htag
  constructor
  · intro h
    obtain ⟨t, ht⟩ := h.exists_skipFunction?
    rw [hnone] at ht
    cases ht
  · intro h
    obtain ⟨t, ht⟩ := h.exists_skipFunction?
    rw [hnone] at ht
    cases ht

/-- **No line has two of the five shapes.** -/
theorem pairwise_shapes (line : Text) :
    shapes.Pairwise fun shape other => ¬ (shape line ∧ other line) := by
  have hclass (h : TypeLine "---@class".toList line) :
      ¬ TypeLine "---@enum".toList line ∧ ¬ AliasLine line :=
    ⟨fun h' => not_prefix_of_prefix (by decide) (by decide) h.isPrefix h'.isPrefix,
      fun h' => not_prefix_of_prefix (by decide) (by decide) h.isPrefix h'.isPrefix⟩
  have henum (h : TypeLine "---@enum".toList line) : ¬ AliasLine line := fun h' =>
    not_prefix_of_prefix (by decide) (by decide) h.isPrefix h'.isPrefix
  have htype {tag : Text} (h : TypeLine ('-' :: tag) line) :=
    not_routine_of_comment h.isPrefix
  have halias (h : AliasLine line) := not_routine_of_comment h.isPrefix
  simp only [shapes, List.pairwise_cons, List.forall_mem_cons, List.not_mem_nil, false_imp_iff,
    implies_true, List.Pairwise.nil, and_true, not_and]
  exact ⟨⟨fun h => (hclass h).1, fun h => (hclass h).2, fun h => (htype h).1, fun h => (htype h).2⟩,
    ⟨henum, fun h => (htype h).1, fun h => (htype h).2⟩,
    ⟨fun h => (halias h).1, fun h => (halias h).2⟩, MethodLine.not_functionLine⟩

theorem pairwise_readers (line : Text) :
    readers.Pairwise fun read other => read line = none ∨ other line = none := by
  have hshape := (List.forall₂_iff_get.1 (forall₂_readers_shapes line)).2
  have hshapes := List.pairwise_iff_get.1 (pairwise_shapes line)
  rw [List.pairwise_iff_get]
  intro i j hij
  by_contra h
  simp only [not_or, ← Option.isSome_iff_ne_none] at h
  have hi := (hshape i i.2 i.2).1 h.1
  have hj := (hshape j j.2 j.2).1 h.2
  exact hshapes i j hij ⟨hi, hj⟩

/-! ### The order of the readers -/

/-- Two readers that take a line are the same, so they give the same marker. -/
theorem eq_of_mem_readers {read other : Text → Option (Marker × Text)} {r r' : Marker × Text}
    (hread : read ∈ readers) (hother : other ∈ readers) (h : read line = some r)
    (h' : other line = some r') : r = r' := by
  by_contra hne
  have hdiffer : read ≠ other := by
    rintro rfl
    exact hne (Option.some.inj (h.symm.trans h'))
  have hsymm : Std.Symm fun read other : Text → Option (Marker × Text) =>
      read line = none ∨ other line = none := ⟨fun _ _ => Or.symm⟩
  rcases (pairwise_readers line).forall hread hother hdiffer with hnone | hnone
  · rw [hnone] at h
    cases h
  · rw [hnone] at h'
    cases h'

/-- **Readers in any order** give the marker of the one reader that takes the line. -/
theorem findSome?_eq_some_iff {table : List (Text → Option (Marker × Text))}
    (htable : table.Perm readers) {r : Marker × Text} :
    table.findSome? (· line) = some r ↔ ∃ read ∈ readers, read line = some r := by
  constructor
  · intro h
    obtain ⟨read, hread, hr⟩ := List.exists_of_findSome?_eq_some h
    exact ⟨read, htable.mem_iff.1 hread, hr⟩
  · rintro ⟨read, hread, hr⟩
    cases h : table.findSome? (· line) with
    | none =>
      rw [List.findSome?_eq_none_iff] at h
      rw [h read (htable.mem_iff.2 hread)] at hr
      cases hr
    | some r' =>
      obtain ⟨other, hother, hr'⟩ := List.exists_of_findSome?_eq_some h
      rw [eq_of_mem_readers (htable.mem_iff.1 hother) hread hr' hr]

theorem classify_eq_some_iff {r : Marker × Text} :
    classify line = some r ↔ ∃ read ∈ readers, read line = some r :=
  findSome?_eq_some_iff (List.Perm.refl readers)

/-! ### Marker lines and tags -/

end Marker

/-- **No tag takes the line**: it is no field, parameter, return value, option, doc comment or
modifier. -/
structure Tag.Untagged (line : Text) : Prop where
  field_eq_none : Tag.field? line = none
  param_eq_none : Tag.param? line = none
  return_eq_none : Tag.return? line = none
  option_eq_none : Tag.option? line = none
  doc_eq_none : Tag.doc? line = none
  modifier_eq_none : Tag.modifier? line = none

theorem Tag.untagged_of_head? {line : Text} (h : (Text.trimLeft line).head? ≠ some '-') :
    Untagged line := by
  have hline : line.head? ≠ some '-' := by
    intro hdash
    obtain ⟨t, rfl⟩ := List.head?_eq_some_iff.1 hdash
    exact h rfl
  have htags (tag : Text) : Text.after? ('-' :: tag) (Text.trimLeft line) = none :=
    Text.after?_eq_none h
  have hstart (tag : Text) : Text.after? ('-' :: tag) line = none := Text.after?_eq_none hline
  constructor
  · rw [field?, show "---@field".toList = '-' :: "--@field".toList from rfl, hstart]
    rfl
  · rw [param?, show "---@param".toList = '-' :: "--@param".toList from rfl, htags]
    rfl
  · rw [return?, show "---@return".toList = '-' :: "--@return".toList from rfl, htags]
    rfl
  · rw [option?, show "---|".toList = '-' :: "--|".toList from rfl, hstart]
    rfl
  · rw [doc?, show "---".toList = '-' :: "--".toList from rfl, htags]
    rfl
  · rw [modifier?, show "---@".toList = '-' :: "--@".toList from rfl, htags]
    rfl

namespace Marker

variable {line : Text}

/-- **A marker line has no tag.** -/
theorem untagged_of_shape : ∀ shape ∈ shapes, shape line → Tag.Untagged line := by
  have hskip {t : Text} (h : skipFunction? line = some t) : Tag.Untagged line := by
    apply Tag.untagged_of_head?
    rw [head?_of_skipFunction? h]
    decide
  simp only [shapes, List.forall_mem_cons, List.not_mem_nil, false_imp_iff, implies_true, and_true]
  refine ⟨fun h => ?_, fun h => ?_, fun h => ?_, fun h => ?_, fun h => ?_⟩
  · obtain ⟨t, rfl⟩ := h.isPrefix
    exact ⟨rfl, rfl, rfl, rfl, rfl, rfl⟩
  · obtain ⟨t, rfl⟩ := h.isPrefix
    exact ⟨rfl, rfl, rfl, rfl, rfl, rfl⟩
  · obtain ⟨t, rfl⟩ := h.isPrefix
    exact ⟨rfl, rfl, rfl, rfl, rfl, rfl⟩
  · obtain ⟨t, ht⟩ := h.exists_skipFunction?
    exact hskip ht
  · obtain ⟨t, ht⟩ := h.exists_skipFunction?
    exact hskip ht

/-- **The order of the readers does not matter.**  Each reader takes the lines of one shape, no line
is taken by two of them, and so every order of the readers gives the same answer; a line that one of
them takes has no tag. -/
theorem readers_exclusive (line : Text) :
    List.Forall₂ (fun read shape => (read line).isSome = true ↔ shape line) readers shapes ∧
      (readers.Pairwise fun read other => read line = none ∨ other line = none) ∧
      (∀ table : List (Text → Option (Marker × Text)), table.Perm readers →
        table.findSome? (· line) = classify line) ∧
      ∀ shape ∈ shapes, shape line → Tag.Untagged line := by
  refine ⟨forall₂_readers_shapes line, pairwise_readers line, fun table htable => ?_,
    untagged_of_shape⟩
  ext r
  rw [findSome?_eq_some_iff htable, classify_eq_some_iff]

/-! ### Written lines -/

/-- **A marker line gives back what was written.**  The owner of a method may have any number of
dots, and the text behind a marker is arbitrary as far as it does not go on with its last name. -/
theorem classify_written {n o p m a : Text} (hn : Name.isDotted n = true)
    (ho : Name.isDotted o = true) (hp : Name.isDotted p = true) (hm : Name.isName m = true)
    (ha : ')' ∉ a) :
    (∀ r : Text, (∀ c, r.head? = some c → ¬ Name.IsDottedChar c) →
      classify ("---@class ".toList ++ n ++ " : ".toList ++ p ++ r) =
          some (classDef n (some p), r) ∧
        classify ("---@enum ".toList ++ n ++ r) = some (enumDef n, r)) ∧
      (∀ t : Text, t ≠ [] → Text.trim t = t → '\n' ∉ t →
        classify ("---@alias ".toList ++ n ++ ' ' :: t) = some (aliasDef n (some t), [])) ∧
      classify ("---@alias ".toList ++ n) = some (aliasDef n none, []) ∧
      ∀ r : Text,
        classify ("function ".toList ++ o ++ ':' :: m ++ '(' :: a ++ ')' :: r) =
            some (method o ':' m a, r) ∧
          classify ("function ".toList ++ o ++ '.' :: m ++ '(' :: a ++ ')' :: r) =
            some (method o '.' m a, r) ∧
          classify ("function ".toList ++ m ++ '(' :: a ++ ')' :: r) = some (function m a, r) := by
  obtain ⟨space, hspace⟩ : ∃ space : Blanks, space.text = [' '] :=
    ⟨⟨[' '], List.forall_mem_singleton.2 rfl, List.cons_ne_nil _ _⟩, rfl⟩
  have hnil : ∀ c ∈ ([] : Text), Text.isBlank c = true := fun _ h => absurd h List.not_mem_nil
  refine ⟨fun r hr => ⟨?_, ?_⟩, fun t hne htrim hfeed => ?_, ?_, fun r => ⟨?_, ?_, ?_⟩⟩
  · have hread := readClass?_append space (Or.inl rfl) hn hp hr
    rw [classify_eq_some_iff]
    exact ⟨readClass?, by simp [readers], by simpa [hspace] using hread⟩
  · have hread := readEnum?_append space (Or.inl rfl) hn hr
    rw [classify_eq_some_iff]
    exact ⟨readEnum?, by simp [readers], by simpa [hspace] using hread⟩
  · have htrimmed : t.IsTrimmed := htrim ▸ Text.isTrimmed_trim t
    have hread := readAlias?_append_target space space hn hne htrimmed hfeed hnil
    rw [classify_eq_some_iff]
    exact ⟨readAlias?, by simp [readers], by simpa [hspace] using hread⟩
  · have hread := readAlias?_append space hn hnil
    rw [classify_eq_some_iff]
    exact ⟨readAlias?, by simp [readers], by simpa [hspace] using hread⟩
  · have hread := readMethod?_append space hnil ho (Or.inl rfl) hm hnil ha r
    rw [classify_eq_some_iff]
    exact ⟨readMethod?, by simp [readers], by simpa [hspace] using hread⟩
  · have hread := readMethod?_append space hnil ho (Or.inr rfl) hm hnil ha r
    rw [classify_eq_some_iff]
    exact ⟨readMethod?, by simp [readers], by simpa [hspace] using hread⟩
  · have hread := readFunction?_append space hnil hm hnil ha r
    rw [classify_eq_some_iff]
    exact ⟨readFunction?, by simp [readers], by simpa [hspace] using hread⟩

theorem classify_written_dots :
    classify "---@class A.b : Base -- note".toList =
        some (classDef "A.b".toList (some "Base".toList), " -- note".toList) ∧
      classify "---@enum A.b".toList = some (enumDef "A.b".toList, []) ∧
      classify "---@alias A.b fun(x): y".toList =
        some (aliasDef "A.b".toList (some "fun(x): y".toList), []) ∧
      classify "---@alias A.b".toList = some (aliasDef "A.b".toList none, []) ∧
      classify "function M.sub.deep:run_2(x, ...) end".toList =
        some (method "M.sub.deep".toList ':' "run_2".toList "x, ...".toList, " end".toList) ∧
      classify "function M.sub.deep.run_2(x, ...) end".toList =
        some (method "M.sub.deep".toList '.' "run_2".toList "x, ...".toList, " end".toList) ∧
      classify "function run_2(x, ...) end".toList =
        some (function "run_2".toList "x, ...".toList, " end".toList) := by
  have hn : Name.isDotted "A.b".toList = true := by decide
  have ho : Name.isDotted "M.sub.deep".toList = true := by decide
  have hp : Name.isDotted "Base".toList = true := by decide
  have hm : Name.isName "run_2".toList = true := by decide
  have ha : ')' ∉ "x, ...".toList := by decide
  have hspace : ¬ Name.IsDottedChar ' ' := fun h =>
    Name.ne_of_isDottedChar h (by decide) (by decide) rfl
  obtain ⟨htype, htarget, halias, hroutine⟩ := classify_written hn ho hp hm ha
  exact ⟨(htype " -- note".toList (by rintro c ⟨⟩; exact hspace)).1, (htype [] (by rintro c ⟨⟩)).2,
    htarget "fun(x): y".toList (by decide) (by decide) (by decide), halias,
    hroutine " end".toList⟩

/-! ### Aliases with a type on their line -/

section Targets

variable {r : Marker × Text}

/-- What stands on the line of an alias behind its name, if anything, is not blank. -/
def Targeted (marker : Marker) : Prop :=
  ∀ name target, marker = .aliasDef name (some target) → Text.trim target ≠ []

theorem targeted_of_readAlias? (h : readAlias? line = some r) : r.1.Targeted := by
  unfold readAlias? at h
  simp only [Option.bind_eq_bind, Option.bind_eq_some_iff] at h
  obtain ⟨t, -, u, -, ⟨name, rest⟩, -, h⟩ := h
  simp only at h
  split at h
  · cases h
    rintro _ _ ⟨⟩
  · rename_i hrest
    obtain ⟨target, hskip, h⟩ := Option.bind_eq_some_iff.1 h
    split at h
    · cases h
    · rename_i hline
      cases h
      rintro _ _ ⟨⟩
      -- the blanks behind the name are skipped, so the target starts with a visible character
      obtain ⟨gap, rfl, hvisible⟩ := Text.skipBlanks?_eq_some_iff.1 hskip
      rw [Text.trimLeft_append_of_visible gap.isBlank hvisible] at hrest
      obtain ⟨c, cs, rfl⟩ := List.exists_cons_of_ne_nil hrest
      have htrim : Text.trim (c :: cs) = Text.trimRight (c :: cs) := by
        rw [Text.trim, Text.trimLeft_eq_self hvisible]
      rw [← htrim, Text.trim_eq_self (Text.isTrimmed_trim _)]
      exact Text.trim_ne_nil (List.mem_cons_self ..) (hvisible c rfl)

theorem targeted_of_marker? {marker : Marker} (h : marker? line = some marker) :
    marker.Targeted := by
  obtain ⟨r, hr, rfl⟩ := Option.map_eq_some_iff.1 h
  obtain ⟨read, hread, hr⟩ := List.exists_of_findSome?_eq_some hr
  simp only [readers, List.mem_cons, List.not_mem_nil, or_false] at hread
  -- the other readers make no alias
  rcases hread with rfl | rfl | rfl | rfl | rfl
  · rw [readClass?_eq] at hr
    obtain ⟨head, -, rfl⟩ := Option.map_eq_some_iff.1 hr
    intro name target heq
    split at heq <;> cases heq
  · rw [readEnum?_eq] at hr
    obtain ⟨head, -, rfl⟩ := Option.map_eq_some_iff.1 hr
    rintro _ _ ⟨⟩
  · exact targeted_of_readAlias? hr
  · obtain ⟨owner, separator, name, arguments, hmethod⟩ := exists_method_of_readMethod? hr
    rw [hmethod]
    rintro _ _ ⟨⟩
  · obtain ⟨name, arguments, hfunction, -⟩ := exists_function_of_readFunction? hr
    rw [hfunction]
    rintro _ _ ⟨⟩

end Targets

end Marker

/-- **An alias with a text on its line has a type there**, so that it has none is never reported. -/
theorem Draft.enterAliasLine_of_mem {lines : List Text} {line : Nat} {name target : Text}
    (h : .aliasLine line name target ∈ Declaration.ofLines lines) (v : Vocabulary) (file : Nat)
    (d : Draft) :
    ∃ type, TypeExpr.cut? target = some type ∧
      d.enterAliasLine v file line name target =
        (d.declare .aliasKind name file line).1.enterOption v file
          (d.declare .aliasKind name file line).2 (line, .type type) := by
  obtain ⟨-, -, hmarkers⟩ := Declaration.dispatched_ofLines lines
  obtain ⟨i, text, -, -, hmarker⟩ := (hmarkers line (.aliasDef name (some target))).1
    (List.mem_flatMap.2 ⟨_, h, List.mem_singleton_self _⟩)
  cases hcut : TypeExpr.cut? target with
  | none =>
    have hblank := TypeExpr.cut?_eq_none_iff.1 hcut
    exact absurd hblank (Marker.targeted_of_marker? hmarker name target rfl)
  | some type =>
    refine ⟨type, rfl, ?_⟩
    unfold enterAliasLine
    rw [hcut]

end LuaAtlas
