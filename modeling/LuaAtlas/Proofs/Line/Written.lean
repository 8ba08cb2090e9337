import LuaAtlas.Line.Marker
import LuaAtlas.Proofs.Declaration.TypeTags

/-!
# Marker lines as they are written

A marker line is put together from blanks, names, argument lists and other text.  Here each reader
of a line is compared with such a text.  For the parts of a line there is an equivalence that says
which texts are read and how they are parted (`Text.skipBlanks?_eq_some_iff`,
`readArguments?_eq_some_iff`, `skipFunction?_eq_some_iff`, `exists_skipAttribute`); for a whole
line, the marker that it gives (`readClass?_append` to `readMethod?_append`).  The blanks may be any
blanks, and the text behind the marker is arbitrary as far as it does not go on with the last name.

Dotted names are names with dots between them (`Name.isDotted_iff`).  A method's line with a dot in
front of its name is read as one dotted name up to its arguments, and parted again at the last dot
(`Name.splitLastDot?_eq_some_iff`), so its owner may have any number of dots.  Whatever a marker
line declares has such a name (`wellNamed_of_marker?`).
-/

namespace LuaAtlas

/-! ### Blanks in front -/

namespace Text

/-- A text is its leading blanks and what is left without them. -/
theorem exists_blanks_append_trimLeft (t : Text) :
    ∃ blanks, (∀ c ∈ blanks, isBlank c = true) ∧ t = blanks ++ trimLeft t ∧
      ∀ c, (trimLeft t).head? = some c → isBlank c = false := by
  refine ⟨t.takeWhile isBlank, fun c hc => List.mem_takeWhile_imp hc,
    List.takeWhile_append_dropWhile.symm, fun c hc => ?_⟩
  have hhead := List.head?_dropWhile_not isBlank t
  rw [show (t.dropWhile isBlank).head? = some c from hc] at hhead
  simpa using hhead

theorem trimLeft_append_of_visible {blanks t : Text} (hblanks : ∀ c ∈ blanks, isBlank c = true)
    (ht : ∀ c, t.head? = some c → isBlank c = false) : trimLeft (blanks ++ t) = t := by
  rw [trimLeft_append_of_blank hblanks, trimLeft_eq_self ht]

/-- **Skipping blanks** takes all of them, and there has to be one. -/
theorem skipBlanks?_eq_some_iff {t u : Text} : skipBlanks? t = some u ↔
    ∃ blanks : Blanks, t = blanks.text ++ u ∧ ∀ c, u.head? = some c → isBlank c = false := by
  constructor
  · intro h
    cases t with
    | nil => cases h
    | cons b t =>
      rw [skipBlanks?] at h
      split at h
      · rename_i hb
        obtain ⟨bs, hbs, hsplit, hvisible⟩ := exists_blanks_append_trimLeft t
        cases h
        refine ⟨⟨b :: bs, List.forall_mem_cons.2 ⟨hb, hbs⟩, List.cons_ne_nil b bs⟩, ?_, hvisible⟩
        exact congrArg (b :: ·) hsplit
      · cases h
  · rintro ⟨blanks, rfl, hvisible⟩
    exact blanks.skipBlanks?_append hvisible

end Text

/-! ### Dotted names -/

namespace Name

/-- **Names with dots between them**, by their last part. -/
inductive Dotted : Text → Prop
  | name {n : Text} (h : isName n = true) : Dotted n
  | dot {o n : Text} (ho : Dotted o) (h : isName n = true) : Dotted (o ++ '.' :: n)

theorem isName_concat {n : Text} {c : Char} (h : isName n = true) (hc : isRest c = true) :
    isName (n ++ [c]) = true := by
  cases n with
  | nil => cases h
  | cons d n =>
    rw [isName, Bool.and_eq_true] at h
    rw [List.cons_append, isName, List.all_append, h.1, h.2]
    simp [hc]

theorem Dotted.concat {t : Text} {c : Char} (h : Dotted t) (hc : isRest c = true) :
    Dotted (t ++ [c]) := by
  cases h with
  | name h => exact .name (isName_concat h hc)
  | dot ho h =>
    rw [List.append_assoc, List.cons_append]
    exact .dot ho (isName_concat h hc)

/-- **What continues a dotted name makes a dotted name of it.** -/
theorem Dotted.append_dottedRest {t : Text} (ht : Dotted t) (u : Text) :
    Dotted (t ++ (dottedRest u).1) := by
  -- a dot is taken together with the name that starts behind it
  have hopen : ∀ u t : Text,
      (Dotted t ∨ ∃ o c cs, t = o ++ ['.'] ∧ Dotted o ∧ u = c :: cs ∧ isStart c = true) →
      Dotted (t ++ (dottedRest u).1) := by
    intro u
    fun_induction dottedRest u with
    | case1 =>
      rintro t (ht | ⟨o, c, cs, -, -, hnil, -⟩)
      · rwa [List.append_nil]
      · cases hnil
    | case2 c cs hc r ih =>
      rintro t (ht | ⟨o, d, ds, rfl, ho, hcons, hd⟩)
      · have happend := ih (t ++ ['.']) (Or.inr ⟨t, c, cs, rfl, ht, rfl, hc⟩)
        rwa [List.append_assoc] at happend
      · obtain ⟨rfl, -⟩ := List.cons.inj hcons
        cases hd
    | case3 c cs hc =>
      rintro t (ht | ⟨o, d, ds, rfl, ho, hcons, hd⟩)
      · rwa [List.append_nil]
      · obtain ⟨rfl, -⟩ := List.cons.inj hcons
        cases hd
    | case4 c cs hne hc r ih =>
      rintro t (ht | ⟨o, d, ds, rfl, ho, hcons, hd⟩)
      · have happend := ih (t ++ [c]) (Or.inl (ht.concat hc))
        rwa [List.append_assoc] at happend
      · obtain ⟨rfl, rfl⟩ := List.cons.inj hcons
        have hname : isName [c] = true := by simp [isName, hd]
        have happend := ih (o ++ '.' :: [c]) (Or.inl (.dot ho hname))
        simpa using happend
    | case5 c cs hne hc =>
      rintro t (ht | ⟨o, d, ds, rfl, ho, hcons, hd⟩)
      · rwa [List.append_nil]
      · obtain ⟨rfl, -⟩ := List.cons.inj hcons
        exact absurd (isRest_of_isStart hd) hc
  exact hopen u t (Or.inl ht)

theorem Dotted.of_isStart {c : Char} (hc : isStart c = true) (u : Text) :
    Dotted (c :: (dottedRest u).1) := by
  have hname : isName [c] = true := by simp [isName, hc]
  exact (Dotted.name hname).append_dottedRest u

/-- A dot and a name continue a dotted name up to its end. -/
theorem dottedRest_append_dot {t n : Text} (ht : (dottedRest t).2 = []) (hn : isName n = true) :
    (dottedRest (t ++ '.' :: n)).2 = [] := by
  fun_induction dottedRest t with
  | case1 =>
    cases n with
    | nil => cases hn
    | cons c n =>
      obtain ⟨hstart, hrest⟩ := isDotted_cons (isDotted_of_isName hn)
      rw [List.nil_append, dottedRest, if_pos hstart, dottedRest, if_pos (isRest_of_isStart hstart)]
      · exact hrest
      · rintro - - rfl
        cases hstart
  | case2 c cs hc r ih =>
    rw [List.cons_append, List.cons_append, dottedRest, if_pos hc, ← List.cons_append]
    exact ih ht
  | case3 => cases ht
  | case4 c cs hne hc r ih =>
    rw [List.cons_append, dottedRest, if_pos hc]
    · exact ih ht
    · rintro - - rfl
      cases hc
  | case5 => cases ht

/-- **Dotted names are names with dots between them.** -/
theorem isDotted_iff {t : Text} : isDotted t = true ↔ Dotted t := by
  constructor
  · intro h
    obtain ⟨c, cs, rfl, hc⟩ := exists_cons_of_isDotted h
    have hwhole := dottedRest_append cs
    rw [(isDotted_cons h).2, List.append_nil] at hwhole
    have hdotted := Dotted.of_isStart hc cs
    rwa [hwhole] at hdotted
  · intro h
    induction h with
    | name h => exact isDotted_of_isName h
    | dot ho h ih =>
      obtain ⟨c, cs, rfl, hc⟩ := exists_cons_of_isDotted ih
      have hrest := dottedRest_append_dot (isDotted_cons ih).2 h
      simp only [List.cons_append, isDotted, readDotted?, hc, ↓reduceIte, hrest]

/-- What is read as a dotted name is one. -/
theorem isDotted_of_readDotted? {t name rest : Text} (h : readDotted? t = some (name, rest)) :
    isDotted name = true := by
  cases t with
  | nil => cases h
  | cons c cs =>
    rw [readDotted?] at h
    split at h
    · rename_i hc
      cases h
      exact isDotted_iff.2 (Dotted.of_isStart hc cs)
    · cases h

theorem isName_of_read? {t name rest : Text} (h : read? t = some (name, rest)) :
    isName name = true := by
  cases t with
  | nil => cases h
  | cons c cs =>
    rw [read?] at h
    split at h
    · rename_i hc
      cases h
      rw [isName, hc, Bool.true_and, List.all_eq_true]
      exact fun d hd => List.mem_takeWhile_imp hd
    · cases h

theorem not_mem_of_isName {n : Text} {d : Char} (h : isName n = true) (hd : isRest d = false) :
    d ∉ n := by
  intro hmem
  cases n with
  | nil => cases h
  | cons c n =>
    rw [isName, Bool.and_eq_true, List.all_eq_true] at h
    rcases List.mem_cons.1 hmem with rfl | hmem
    · exact ne_of_isRest (isRest_of_isStart h.1) hd rfl
    · exact ne_of_isRest (h.2 d hmem) hd rfl

/-! ### The last dot -/

theorem splitLastDot?_append {o n : Text} (hn : '.' ∉ n) :
    splitLastDot? (o ++ '.' :: n) = some (o, n) := by
  have hne : ∀ c ∈ n.reverse, (c != '.') = true := by
    intro c hc
    rw [bne_iff_ne]
    rintro rfl
    exact hn (List.mem_reverse.1 hc)
  have hreverse : (o ++ '.' :: n).reverse = n.reverse ++ '.' :: o.reverse := by simp
  unfold splitLastDot?
  rw [hreverse, List.takeWhile_append_of_pos hne, List.dropWhile_append_of_pos hne]
  simp

theorem splitLastDot?_eq_none {n : Text} (hn : '.' ∉ n) : splitLastDot? n = none := by
  have hnil : n.reverse.dropWhile (· != '.') = [] := by
    rw [List.dropWhile_eq_nil_iff]
    intro c hc
    rw [bne_iff_ne]
    rintro rfl
    exact hn (List.mem_reverse.1 hc)
  rw [splitLastDot?, hnil]

/-- **A dotted name is parted at its last dot** into a dotted name and a name. -/
theorem splitLastDot?_eq_some_iff {t o n : Text} (ht : isDotted t = true) :
    splitLastDot? t = some (o, n) ↔ t = o ++ '.' :: n ∧ isDotted o = true ∧ isName n = true := by
  have hdot {m : Text} (hm : isName m = true) : '.' ∉ m := not_mem_of_isName hm (by decide)
  constructor
  · intro h
    cases isDotted_iff.1 ht with
    | name hm =>
      rw [splitLastDot?_eq_none (hdot hm)] at h
      cases h
    | dot ho hm =>
      rw [splitLastDot?_append (hdot hm)] at h
      cases h
      exact ⟨rfl, isDotted_iff.2 ho, hm⟩
  · rintro ⟨rfl, -, hn⟩
    exact splitLastDot?_append (hdot hn)

end Name

/-! ### Parts of marker lines -/

namespace Marker

variable {line t rest name arguments : Text}

/-- **What may stand in front of the name of a class or an enumeration**: nothing, or a word of
lower case letters in parentheses, with blanks behind it if wanted. -/
def IsAttribute (attr : Text) : Prop :=
  attr = [] ∨ ∃ word blanks, attr = '(' :: (word ++ ')' :: blanks) ∧ word ≠ [] ∧
    (∀ c ∈ word, c.isLower = true) ∧ ∀ c ∈ blanks, Text.isBlank c = true

/-- An attribute is skipped in front of a name. -/
theorem skipAttribute_append {attr : Text} (h : IsAttribute attr)
    (ht : ∀ c, t.head? = some c → Name.isRest c = true) :
    skipAttribute (attr ++ t) = t := by
  rcases h with rfl | ⟨word, blanks, rfl, hne, hword, hblanks⟩
  · cases t with
    | nil => rfl
    | cons c t =>
      rw [List.nil_append, skipAttribute]
      rintro _ ⟨⟩
      cases ht '(' rfl
  · obtain ⟨c, cs, rfl⟩ := List.exists_cons_of_ne_nil hne
    have htrim : Text.trimLeft (blanks ++ t) = t :=
      Text.trimLeft_append_of_visible hblanks fun d hd => Name.isBlank_of_isRest (ht d hd)
    have htake : ((c :: cs) ++ ')' :: (blanks ++ t)).takeWhile Char.isLower = c :: cs := by
      rw [List.takeWhile_append_of_pos hword, List.takeWhile_cons_of_neg (by decide),
        List.append_nil]
    have hdrop : ((c :: cs) ++ ')' :: (blanks ++ t)).dropWhile Char.isLower =
        ')' :: (blanks ++ t) := by
      rw [List.dropWhile_append_of_pos hword, List.dropWhile_cons_of_neg (by decide)]
    have hassoc : '(' :: ((c :: cs) ++ ')' :: blanks) ++ t =
        '(' :: ((c :: cs) ++ ')' :: (blanks ++ t)) := by simp
    rw [hassoc, skipAttribute, htake, hdrop]
    exact htrim

/-- What is skipped is an attribute. -/
theorem exists_skipAttribute (t : Text) :
    ∃ attr, IsAttribute attr ∧ t = attr ++ skipAttribute t := by
  unfold skipAttribute
  split
  · rename_i cs
    split
    · rename_i c word rest htake hdrop
      obtain ⟨blanks, hblanks, hsplit, -⟩ := Text.exists_blanks_append_trimLeft rest
      have hword : ∀ d ∈ c :: word, d.isLower = true := by
        intro d hd
        rw [← htake] at hd
        exact List.mem_takeWhile_imp hd
      refine ⟨'(' :: ((c :: word) ++ ')' :: blanks),
        Or.inr ⟨c :: word, blanks, rfl, List.cons_ne_nil _ _, hword, hblanks⟩, ?_⟩
      have hcs : cs = (c :: word) ++ ')' :: rest := by
        rw [← htake, ← hdrop, List.takeWhile_append_dropWhile]
      calc '(' :: cs = '(' :: ((c :: word) ++ ')' :: (blanks ++ Text.trimLeft rest)) := by
            rw [hcs, ← hsplit]
        _ = '(' :: ((c :: word) ++ ')' :: blanks) ++ Text.trimLeft rest := by simp
    · exact ⟨[], Or.inl rfl, rfl⟩
  · exact ⟨[], Or.inl rfl, rfl⟩

/-- **An argument list** ends at the first closing parenthesis. -/
theorem readArguments?_eq_some_iff : readArguments? t = some (arguments, rest) ↔
    ∃ blanks, (∀ c ∈ blanks, Text.isBlank c = true) ∧
      t = blanks ++ '(' :: (arguments ++ ')' :: rest) ∧ ')' ∉ arguments := by
  constructor
  · intro h
    obtain ⟨blanks, hblanks, hsplit, -⟩ := Text.exists_blanks_append_trimLeft t
    unfold readArguments? at h
    split at h
    · rename_i cs htrim
      split at h
      · rename_i c rest' hdrop
        cases h
        obtain rfl : c = ')' := by
          have hhead := List.head?_dropWhile_not (· != ')') cs
          rw [hdrop] at hhead
          simpa using hhead
        refine ⟨blanks, hblanks, ?_, fun hmem => ?_⟩
        · rw [← hdrop, List.takeWhile_append_dropWhile, ← htrim]
          exact hsplit
        · simpa using List.mem_takeWhile_imp hmem
      · cases h
    · cases h
  · rintro ⟨blanks, hblanks, rfl, harguments⟩
    have hne : ∀ c ∈ arguments, (c != ')') = true := by
      intro c hc
      rw [bne_iff_ne]
      rintro rfl
      exact harguments hc
    have htrim : Text.trimLeft (blanks ++ '(' :: (arguments ++ ')' :: rest)) =
        '(' :: (arguments ++ ')' :: rest) :=
      Text.trimLeft_append_of_visible hblanks (by rintro c ⟨⟩; decide)
    have htake : (arguments ++ ')' :: rest).takeWhile (· != ')') = arguments := by
      rw [List.takeWhile_append_of_pos hne, List.takeWhile_cons_of_neg (by decide), List.append_nil]
    have hdrop : (arguments ++ ')' :: rest).dropWhile (· != ')') = ')' :: rest := by
      rw [List.dropWhile_append_of_pos hne, List.dropWhile_cons_of_neg (by decide)]
    rw [readArguments?, htrim]
    simp only [htake, hdrop]

/-- **The front of a function's line.** -/
theorem skipFunction?_eq_some_iff : skipFunction? line = some t ↔
    ∃ lead, ∃ blanks : Blanks, (∀ c ∈ lead, Text.isBlank c = true) ∧
      line = lead ++ ("function".toList ++ (blanks.text ++ t)) ∧
      ∀ c, t.head? = some c → Text.isBlank c = false := by
  constructor
  · intro h
    obtain ⟨u, hu, ht⟩ := Option.bind_eq_some_iff.1 h
    obtain ⟨blanks, rfl, hvisible⟩ := Text.skipBlanks?_eq_some_iff.1 ht
    obtain ⟨lead, hlead, hsplit, -⟩ := Text.exists_blanks_append_trimLeft line
    rw [Text.after?_eq_some_iff] at hu
    exact ⟨lead, blanks, hlead, hu ▸ hsplit, hvisible⟩
  · rintro ⟨lead, blanks, hlead, rfl, hvisible⟩
    have htrim : Text.trimLeft (lead ++ ("function".toList ++ (blanks.text ++ t))) =
        "function".toList ++ (blanks.text ++ t) :=
      Text.trimLeft_append_of_visible hlead (by rintro c ⟨⟩; decide)
    rw [skipFunction?, htrim, Text.after?_eq_some_iff.2 rfl]
    exact blanks.skipBlanks?_append hvisible

/-! ### Classes and enumerations -/

/-- The name behind a tag and the rest of the line; an attribute in front of it is skipped. -/
def headOf? (tag line : Text) : Option (Text × Text) :=
  (Text.after? tag line).bind fun t => (Text.skipBlanks? t).bind fun u =>
    Name.readDotted? (skipAttribute u)

theorem readClass?_eq (line : Text) : readClass? line =
    (headOf? "---@class".toList line).map fun head =>
      match readParent? head.2 with
      | some (parent, rest) => (classDef head.1 (some parent), rest)
      | none => (classDef head.1 none, head.2) := by
  unfold readClass? headOf?
  cases Text.after? "---@class".toList line with
  | none => rfl
  | some t =>
    cases ht : Text.skipBlanks? t with
    | none => simp [ht]
    | some u =>
      cases hu : Name.readDotted? (skipAttribute u) with
      | none => simp [ht, hu]
      | some head =>
        simp only [Option.bind_eq_bind, Option.bind_some, ht, hu, Option.map_some]
        cases readParent? head.2 <;> rfl

theorem readEnum?_eq (line : Text) : readEnum? line =
    (headOf? "---@enum".toList line).map fun head => (enumDef head.1, head.2) := by
  unfold readEnum? headOf?
  cases Text.after? "---@enum".toList line with
  | none => rfl
  | some t =>
    cases ht : Text.skipBlanks? t with
    | none => simp [ht]
    | some u =>
      cases hu : Name.readDotted? (skipAttribute u) with
      | none => simp [ht, hu]
      | some head => simp [ht, hu]

section Head

variable {tag attr : Text} (blanks : Blanks)

theorem isBlank_head_append (hattr : IsAttribute attr)
    (ht : ∀ c, t.head? = some c → Name.isRest c = true) :
    ∀ c, (attr ++ t).head? = some c → Text.isBlank c = false := by
  rcases hattr with rfl | ⟨word, gap, rfl, -⟩
  · exact fun c hc => Name.isBlank_of_isRest (ht c hc)
  · rintro c ⟨⟩
    decide

/-- The blanks and the attribute in front of a name are skipped. -/
theorem headOf?_append_eq (hattr : IsAttribute attr)
    (ht : ∀ c, t.head? = some c → Name.isRest c = true) :
    headOf? tag (tag ++ (blanks.text ++ (attr ++ t))) = Name.readDotted? t := by
  rw [headOf?, Text.after?_eq_some_iff.2 rfl, Option.bind_some,
    blanks.skipBlanks?_append (isBlank_head_append hattr ht), Option.bind_some,
    skipAttribute_append hattr ht]

theorem isRest_head_of_isDotted (hname : Name.isDotted name = true) (rest : Text) :
    ∀ c, (name ++ rest).head? = some c → Name.isRest c = true := by
  obtain ⟨c, cs, rfl, hc⟩ := Name.exists_cons_of_isDotted hname
  rintro d ⟨⟩
  exact Name.isRest_of_isStart hc

/-- **A name behind a tag is read as a whole.** -/
theorem headOf?_append (hattr : IsAttribute attr) (hname : Name.isDotted name = true)
    (hrest : ∀ c, rest.head? = some c → ¬ Name.IsDottedChar c) :
    headOf? tag (tag ++ (blanks.text ++ (attr ++ (name ++ rest)))) = some (name, rest) := by
  rw [headOf?_append_eq blanks hattr (isRest_head_of_isDotted hname rest),
    Name.readDotted?_append_of_isDotted hname hrest]

end Head

theorem readParent?_append (hname : Name.isDotted name = true)
    (hrest : ∀ c, rest.head? = some c → ¬ Name.IsDottedChar c) :
    readParent? (" : ".toList ++ (name ++ rest)) = some (name, rest) := by
  have hvisible : ∀ c, (name ++ rest).head? = some c → Text.isBlank c = false :=
    fun c hc => Name.isBlank_of_isRest (isRest_head_of_isDotted hname rest c hc)
  have htrim : Text.trimLeft (" : ".toList ++ (name ++ rest)) = ':' :: ([' '] ++ (name ++ rest)) :=
    rfl
  rw [readParent?, htrim]
  show Name.readDotted? (Text.trimLeft ([' '] ++ (name ++ rest))) = some (name, rest)
  rw [Text.trimLeft_append_of_visible (List.forall_mem_singleton.2 rfl) hvisible,
    Name.readDotted?_append_of_isDotted hname hrest]

/-- **The line of a class with a parent** gives both names. -/
theorem readClass?_append (blanks : Blanks) {attr parent : Text} (hattr : IsAttribute attr)
    (hname : Name.isDotted name = true) (hparent : Name.isDotted parent = true)
    (hrest : ∀ c, rest.head? = some c → ¬ Name.IsDottedChar c) :
    readClass? ("---@class".toList ++
        (blanks.text ++ (attr ++ (name ++ (" : ".toList ++ (parent ++ rest)))))) =
      some (classDef name (some parent), rest) := by
  have hspace : ∀ c, (" : ".toList ++ (parent ++ rest)).head? = some c →
      ¬ Name.IsDottedChar c := by
    rintro c ⟨⟩
    exact fun h => Name.ne_of_isDottedChar h (by decide) (by decide) rfl
  rw [readClass?_eq, headOf?_append blanks hattr hname hspace, Option.map_some]
  simp only [readParent?_append hparent hrest]

theorem readEnum?_append (blanks : Blanks) {attr : Text} (hattr : IsAttribute attr)
    (hname : Name.isDotted name = true)
    (hrest : ∀ c, rest.head? = some c → ¬ Name.IsDottedChar c) :
    readEnum? ("---@enum".toList ++ (blanks.text ++ (attr ++ (name ++ rest)))) =
      some (enumDef name, rest) := by
  rw [readEnum?_eq, headOf?_append blanks hattr hname hrest, Option.map_some]

/-! ### Aliases -/

/-- A line with the name of an alias and nothing else but blanks. -/
theorem readAlias?_append (blanks : Blanks) (hname : Name.isDotted name = true)
    (hrest : ∀ c ∈ rest, Text.isBlank c = true) :
    readAlias? ("---@alias".toList ++ (blanks.text ++ (name ++ rest))) =
      some (aliasDef name none, []) := by
  have hvisible : ∀ c, (name ++ rest).head? = some c → Text.isBlank c = false :=
    fun c hc => Name.isBlank_of_isRest (isRest_head_of_isDotted hname rest c hc)
  have hend : ∀ c, rest.head? = some c → ¬ Name.IsDottedChar c := by
    intro c hc hdotted
    have hblank := hrest c (List.mem_of_mem_head? hc)
    rw [Name.isBlank_of_isDottedChar hdotted] at hblank
    cases hblank
  rw [readAlias?, Text.after?_eq_some_iff.2 rfl]
  simp only [Option.bind_eq_bind, Option.bind_some, blanks.skipBlanks?_append hvisible,
    Name.readDotted?_append_of_isDotted hname hend, Text.trimLeft_eq_nil hrest, ↓reduceIte]

/-- **The type of an alias** is what stands behind the name, without the blanks around it. -/
theorem readAlias?_append_target (blanks gap : Blanks) {target back : Text}
    (hname : Name.isDotted name = true) (hne : target ≠ []) (htrimmed : target.IsTrimmed)
    (hline : '\n' ∉ target) (hback : ∀ c ∈ back, Text.isBlank c = true) :
    readAlias? ("---@alias".toList ++
        (blanks.text ++ (name ++ (gap.text ++ (target ++ back))))) =
      some (aliasDef name (some target), []) := by
  have hvisible : ∀ c, (name ++ (gap.text ++ (target ++ back))).head? = some c →
      Text.isBlank c = false :=
    fun c hc => Name.isBlank_of_isRest (isRest_head_of_isDotted hname _ c hc)
  have hend : ∀ c, (gap.text ++ (target ++ back)).head? = some c → ¬ Name.IsDottedChar c := by
    intro c hc hdotted
    obtain ⟨b, bs, hcons, hb⟩ := gap.exists_cons
    rw [hcons] at hc
    cases hc
    rw [Name.isBlank_of_isDottedChar hdotted] at hb
    cases hb
  have hstart : ∀ c, (target ++ back).head? = some c → Text.isBlank c = false := by
    intro c hc
    rw [List.head?_append_of_ne_nil _ hne] at hc
    exact htrimmed.1 c hc
  have hleft : Text.trimLeft (gap.text ++ (target ++ back)) ≠ [] := by
    rw [Text.trimLeft_append_of_visible gap.isBlank hstart]
    exact List.append_ne_nil_of_left_ne_nil hne back
  have hright : Text.trimRight (target ++ back) = target := by
    have hnil : Text.dropTrailing Text.isBlank back = [] := List.rdropWhile_eq_nil_iff.2 hback
    rw [Text.trimRight, Text.dropTrailing_append htrimmed.2, hnil, List.append_nil]
  rw [readAlias?, Text.after?_eq_some_iff.2 rfl]
  simp only [Option.bind_eq_bind, Option.bind_some, blanks.skipBlanks?_append hvisible,
    Name.readDotted?_append_of_isDotted hname hend, hleft, ↓reduceIte,
    gap.skipBlanks?_append hstart, hright]
  simp [hline]

/-! ### Methods and functions -/

section Routine

variable {lead owner gap : Text} (blanks : Blanks)

/-- An argument list starts with a blank or a parenthesis. -/
theorem head_arguments (hgap : ∀ c ∈ gap, Text.isBlank c = true) {t : Text} {c : Char}
    (hc : (gap ++ '(' :: t).head? = some c) : Text.isBlank c = true ∨ c = '(' := by
  cases gap with
  | nil =>
    cases hc
    exact Or.inr rfl
  | cons b gap =>
    cases hc
    exact Or.inl (hgap c (List.mem_cons_self ..))

/-- No name goes on in front of an argument list. -/
theorem not_isDottedChar_head (hgap : ∀ c ∈ gap, Text.isBlank c = true) (t : Text) :
    ∀ c, (gap ++ '(' :: t).head? = some c → ¬ Name.IsDottedChar c := by
  intro c hc hdotted
  rcases head_arguments hgap hc with hblank | rfl
  · rw [Name.isBlank_of_isDottedChar hdotted] at hblank
    cases hblank
  · exact Name.ne_of_isDottedChar hdotted (by decide) (by decide) rfl

theorem isRest_head_arguments (hgap : ∀ c ∈ gap, Text.isBlank c = true) (t : Text) :
    ∀ c, (gap ++ '(' :: t).head? = some c → Name.isRest c = false := by
  intro c hc
  exact Bool.eq_false_iff.2 fun hrest => not_isDottedChar_head hgap t c hc (Or.inl hrest)

/-- The word in front of a name is skipped. -/
theorem skipFunction?_append (hlead : ∀ c ∈ lead, Text.isBlank c = true)
    (hname : Name.isDotted name = true) (rest : Text) :
    skipFunction? (lead ++ ("function".toList ++ (blanks.text ++ (name ++ rest)))) =
      some (name ++ rest) :=
  skipFunction?_eq_some_iff.2 ⟨lead, blanks, hlead, rfl, fun c hc =>
    Name.isBlank_of_isRest (isRest_head_of_isDotted hname rest c hc)⟩

/-- **A function's line** gives its name and arguments. -/
theorem readFunction?_append (hlead : ∀ c ∈ lead, Text.isBlank c = true)
    (hname : Name.isName name = true) (hgap : ∀ c ∈ gap, Text.isBlank c = true)
    (harguments : ')' ∉ arguments) (rest : Text) :
    readFunction? (lead ++ ("function".toList ++
        (blanks.text ++ (name ++ (gap ++ '(' :: (arguments ++ ')' :: rest)))))) =
      some (function name arguments, rest) := by
  have hread : Name.read? (name ++ (gap ++ '(' :: (arguments ++ ')' :: rest))) =
      some (name, gap ++ '(' :: (arguments ++ ')' :: rest)) :=
    Name.read?_append_of_isName hname (isRest_head_arguments hgap _)
  have hlist : readArguments? (gap ++ '(' :: (arguments ++ ')' :: rest)) = some (arguments, rest) :=
    readArguments?_eq_some_iff.2 ⟨gap, hgap, rfl, harguments⟩
  rw [readFunction?, skipFunction?_append blanks hlead (Name.isDotted_of_isName hname)]
  simp only [Option.bind_eq_bind, Option.bind_some, hread, hlist]

/-- **A method's line** gives its owner, separator, name and arguments.  Where the separator is a
dot, the dotted name is read up to the arguments and parted again at its last dot. -/
theorem readMethod?_append {separator : Char} (hlead : ∀ c ∈ lead, Text.isBlank c = true)
    (howner : Name.isDotted owner = true) (hseparator : separator = ':' ∨ separator = '.')
    (hname : Name.isName name = true) (hgap : ∀ c ∈ gap, Text.isBlank c = true)
    (harguments : ')' ∉ arguments) (rest : Text) :
    readMethod? (lead ++ ("function".toList ++ (blanks.text ++
        (owner ++ separator :: (name ++ (gap ++ '(' :: (arguments ++ ')' :: rest))))))) =
      some (method owner separator name arguments, rest) := by
  have hlist : readArguments? (gap ++ '(' :: (arguments ++ ')' :: rest)) = some (arguments, rest) :=
    readArguments?_eq_some_iff.2 ⟨gap, hgap, rfl, harguments⟩
  rw [readMethod?, skipFunction?_append blanks hlead howner]
  rcases hseparator with rfl | rfl
  · have hread : Name.read? (name ++ (gap ++ '(' :: (arguments ++ ')' :: rest))) =
        some (name, gap ++ '(' :: (arguments ++ ')' :: rest)) :=
      Name.read?_append_of_isName hname (isRest_head_arguments hgap _)
    have hcolon : ∀ c,
        (':' :: (name ++ (gap ++ '(' :: (arguments ++ ')' :: rest)))).head? = some c →
          ¬ Name.IsDottedChar c := by
      rintro c ⟨⟩ hdotted
      exact Name.ne_of_isDottedChar hdotted (by decide) (by decide) rfl
    simp only [Option.bind_eq_bind, Option.bind_some,
      Name.readDotted?_append_of_isDotted howner hcolon, hread, hlist]
  · have hdotted : Name.isDotted (owner ++ '.' :: name) = true :=
      Name.isDotted_iff.2 (.dot (Name.isDotted_iff.1 howner) hname)
    have hend := not_isDottedChar_head hgap (arguments ++ ')' :: rest)
    have hread : Name.readDotted?
        (owner ++ '.' :: (name ++ (gap ++ '(' :: (arguments ++ ')' :: rest)))) =
          some (owner ++ '.' :: name, gap ++ '(' :: (arguments ++ ')' :: rest)) := by
      rw [← List.cons_append, ← List.append_assoc,
        Name.readDotted?_append_of_isDotted hdotted hend]
    have hsplit : Name.splitLastDot? (owner ++ '.' :: name) = some (owner, name) :=
      (Name.splitLastDot?_eq_some_iff hdotted).2 ⟨rfl, howner, hname⟩
    simp only [Option.bind_eq_bind, Option.bind_some, hread]
    split
    · rename_i cs hcs
      rcases head_arguments hgap (congrArg List.head? hcs) with hblank | hparen
      · cases hblank
      · cases hparen
    · simp only [hsplit, hlist, Option.bind_some]

end Routine

/-! ### Names that are declared -/

section Names

variable {r : Marker × Text}

/-- The name that a marker declares, if any, is a dotted name. -/
def WellNamed (marker : Marker) : Prop :=
  ∀ kind name, marker.declared? = some (kind, name) → Name.isDotted name = true

theorem isDotted_of_headOf? {tag : Text} {head : Text × Text} (h : headOf? tag line = some head) :
    Name.isDotted head.1 = true := by
  obtain ⟨t, -, h⟩ := Option.bind_eq_some_iff.1 h
  obtain ⟨u, -, h⟩ := Option.bind_eq_some_iff.1 h
  exact Name.isDotted_of_readDotted? h

theorem wellNamed_of_readClass? (h : readClass? line = some r) : r.1.WellNamed := by
  rw [readClass?_eq] at h
  obtain ⟨head, hhead, rfl⟩ := Option.map_eq_some_iff.1 h
  intro kind name hd
  split at hd
  · cases hd
    exact isDotted_of_headOf? hhead
  · cases hd
    exact isDotted_of_headOf? hhead

theorem wellNamed_of_readEnum? (h : readEnum? line = some r) : r.1.WellNamed := by
  rw [readEnum?_eq] at h
  obtain ⟨head, hhead, rfl⟩ := Option.map_eq_some_iff.1 h
  rintro _ _ ⟨⟩
  exact isDotted_of_headOf? hhead

theorem wellNamed_of_readAlias? (h : readAlias? line = some r) : r.1.WellNamed := by
  unfold readAlias? at h
  simp only [Option.bind_eq_bind, Option.bind_eq_some_iff] at h
  obtain ⟨t, -, u, -, ⟨name, rest⟩, hread, h⟩ := h
  have hname := Name.isDotted_of_readDotted? hread
  simp only at h
  split at h
  · cases h
    rintro _ _ ⟨⟩
    exact hname
  · obtain ⟨target, -, h⟩ := Option.bind_eq_some_iff.1 h
    split at h
    · cases h
    · cases h
      rintro _ _ ⟨⟩
      exact hname

theorem exists_method_of_readMethod? (h : readMethod? line = some r) :
    ∃ owner separator name arguments, r.1 = .method owner separator name arguments := by
  unfold readMethod? at h
  simp only [Option.bind_eq_bind, Option.bind_eq_some_iff] at h
  obtain ⟨t, -, ⟨dotted, rest⟩, -, h⟩ := h
  simp only at h
  split at h
  · obtain ⟨name, -, h⟩ := Option.bind_eq_some_iff.1 h
    obtain ⟨arguments, -, h⟩ := Option.bind_eq_some_iff.1 h
    cases h
    exact ⟨_, _, _, _, rfl⟩
  · obtain ⟨parted, -, h⟩ := Option.bind_eq_some_iff.1 h
    obtain ⟨arguments, -, h⟩ := Option.bind_eq_some_iff.1 h
    cases h
    exact ⟨_, _, _, _, rfl⟩

theorem exists_function_of_readFunction? (h : readFunction? line = some r) :
    ∃ name arguments, r.1 = .function name arguments ∧ Name.isName name = true := by
  unfold readFunction? at h
  simp only [Option.bind_eq_bind, Option.bind_eq_some_iff] at h
  obtain ⟨t, -, ⟨name, rest⟩, hread, arguments, -, h⟩ := h
  cases h
  exact ⟨name, _, rfl, Name.isName_of_read? hread⟩

/-- A method declares nothing. -/
theorem wellNamed_of_readMethod? (h : readMethod? line = some r) : r.1.WellNamed := by
  obtain ⟨owner, separator, name, arguments, hmethod⟩ := exists_method_of_readMethod? h
  rw [hmethod]
  rintro _ _ ⟨⟩

theorem wellNamed_of_readFunction? (h : readFunction? line = some r) : r.1.WellNamed := by
  obtain ⟨name, arguments, hfunction, hname⟩ := exists_function_of_readFunction? h
  rw [hfunction]
  rintro _ _ ⟨⟩
  exact Name.isDotted_of_isName hname

/-- **What a marker line declares has a dotted name.** -/
theorem wellNamed_of_marker? {marker : Marker} (h : marker? line = some marker) :
    marker.WellNamed := by
  obtain ⟨r, hr, rfl⟩ := Option.map_eq_some_iff.1 h
  obtain ⟨read, hread, hr⟩ := List.exists_of_findSome?_eq_some hr
  simp only [readers, List.mem_cons, List.not_mem_nil, or_false] at hread
  rcases hread with rfl | rfl | rfl | rfl | rfl
  · exact wellNamed_of_readClass? hr
  · exact wellNamed_of_readEnum? hr
  · exact wellNamed_of_readAlias? hr
  · exact wellNamed_of_readMethod? hr
  · exact wellNamed_of_readFunction? hr

end Names

end Marker

end LuaAtlas
