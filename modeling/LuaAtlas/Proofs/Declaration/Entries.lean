import LuaAtlas.Declaration.Scan
import LuaAtlas.Proofs.Text.Lines
import LuaAtlas.Proofs.Text.Naming
import LuaAtlas.Proofs.Text.Splitting

/-!
# Entries of enumerations

An entry of an enumeration's table is written `key = value`, where the key is a name or stands
between brackets and quotes (`EnumTable.Key`, `EnumTable.Entry`).  `Tag.entry?` reads it back with
its value trimmed, from any indentation and in front of blanks or a comma, as long as the value is
*readable*: it is not blank and holds no comma, no brace and no two dashes (`entry?_text`).  The
condition is needed, since no value that is read ever holds one of these (`infix_of_entry?`).  Where
more than blanks or a comment follows the comma, nothing is read at all (`entry?_text_comma`).
-/

namespace LuaAtlas

namespace EnumTable

/-! ### Keys -/

/-- The characters other than brackets, quotes and line breaks. -/
def isPlain (c : Char) : Bool :=
  !Bracket.isOpener c && !Bracket.isCloser c && !Tag.isQuote c && !Text.isLineBreak c

/-- **A key of a table**: a name, or a text that is written between brackets and quotes. -/
inductive Key where
  | bare (name : Text) (isName : Name.isName name = true)
  | quoted (name : Text) (nonempty : name ≠ []) (plain : ∀ c ∈ name, isPlain c = true)
      (noDashes : Text.containsText "--".toList name = false)

namespace Key

variable (k : Key)

/-- The name that a key stands for. -/
def name : Key → Text
  | bare name _ => name
  | quoted name _ _ _ => name

/-- Whether a key stands between brackets and quotes. -/
def isQuoted : Key → Bool
  | bare .. => false
  | quoted .. => true

/-- A key as it is written. -/
def text : Key → Text
  | bare name _ => name
  | quoted name _ _ _ => '[' :: '"' :: (name ++ ['"', ']'])

end Key

theorem isBracket_of_isPlain {c : Char} (h : isPlain c = true) :
    Bracket.isOpener c = false ∧ Bracket.isCloser c = false := by
  simp only [isPlain, Bool.and_eq_true, Bool.not_eq_true'] at h
  exact ⟨h.1.1.1, h.1.1.2⟩

theorem isQuote_of_isPlain {c : Char} (h : isPlain c = true) : Tag.isQuote c = false := by
  simp only [isPlain, Bool.and_eq_true, Bool.not_eq_true'] at h
  exact h.1.2

theorem isLineBreak_of_isPlain {c : Char} (h : isPlain c = true) : Text.isLineBreak c = false := by
  simp only [isPlain, Bool.and_eq_true, Bool.not_eq_true'] at h
  exact h.2

theorem ne_of_isPlain {c d : Char} (h : isPlain c = true) (hd : isPlain d = false) : c ≠ d := by
  rintro rfl
  rw [h] at hd
  cases hd

theorem isPlain_of_isDottedChar {c : Char} (h : Name.IsDottedChar c) : isPlain c = true := by
  have hquote : Tag.isQuote c = false := by
    have h₁ := Name.ne_of_isDottedChar h (d := '"') (by decide) (by decide)
    have h₂ := Name.ne_of_isDottedChar h (d := '\'') (by decide) (by decide)
    simp [Tag.isQuote, h₁, h₂]
  have hbreak : Text.isLineBreak c = false := by
    have h₁ := Name.ne_of_isDottedChar h (d := '\n') (by decide) (by decide)
    have h₂ := Name.ne_of_isDottedChar h (d := '\r') (by decide) (by decide)
    simp [Text.isLineBreak, h₁, h₂]
  rw [isPlain, Name.isOpener_of_isDottedChar h, Name.isCloser_of_isDottedChar h, hquote, hbreak]
  rfl

namespace Key

variable (k : Key)

/-- A written key starts with a character that is neither blank nor a dash nor a comma. -/
theorem exists_text_cons :
    ∃ c cs, k.text = c :: cs ∧ Text.isBlank c = false ∧ c ≠ '-' ∧ c ≠ ',' := by
  cases k with
  | bare name isName =>
    obtain ⟨c, cs, rfl, hc⟩ := Name.exists_cons_of_isDotted (Name.isDotted_of_isName isName)
    have hrest := Name.isRest_of_isStart hc
    exact ⟨c, cs, rfl, Name.isBlank_of_isRest hrest, Name.ne_of_isRest hrest (by decide),
      Name.ne_of_isRest hrest (by decide)⟩
  | quoted name => exact ⟨'[', _, rfl, by decide, by decide, by decide⟩

/-- A written key holds no line breaks and no brackets but its own. -/
theorem mem_text {c : Char} (h : c ∈ k.text) : isPlain c = true ∨ c = '[' ∨ c = ']' ∨ c = '"' := by
  cases k with
  | bare name isName =>
    have hdotted := Name.isDottedChar_of_mem (Name.isDotted_of_isName isName) c h
    exact Or.inl (isPlain_of_isDottedChar hdotted)
  | quoted name _ plain =>
    simp only [text, List.mem_cons, List.mem_append, List.not_mem_nil, or_false] at h
    rcases h with h | h | h | h | h
    · exact Or.inr (Or.inl h)
    · exact Or.inr (Or.inr (Or.inr h))
    · exact Or.inl (plain c h)
    · exact Or.inr (Or.inr (Or.inr h))
    · exact Or.inr (Or.inr (Or.inl h))

theorem not_mem_text {c : Char} (h : isPlain c = false)
    (hc : c ≠ '[' ∧ c ≠ ']' ∧ c ≠ '"') : c ∉ k.text := by
  intro hmem
  rcases k.mem_text hmem with hplain | rfl | rfl | rfl
  · exact ne_of_isPlain hplain h rfl
  · exact hc.1 rfl
  · exact hc.2.1 rfl
  · exact hc.2.2 rfl

theorem noDashes_text : Text.NoDashes k.text := by
  cases k with
  | bare name isName =>
    refine Text.noDashes_of_forall fun c hc => ?_
    have hdotted := Name.isDottedChar_of_mem (Name.isDotted_of_isName isName) c hc
    exact Name.ne_of_isDottedChar hdotted (by decide) (by decide)
  | quoted name _ _ noDashes =>
    have hname : Text.NoDashes name := Text.noDashes_iff.2 noDashes
    have hopen : Text.NoDashes ['[', '"'] := Text.noDashes_iff.2 (by decide)
    have hclose : Text.NoDashes ['"', ']'] := Text.noDashes_iff.2 (by decide)
    have hrest : Text.NoDashes (name ++ ['"', ']']) := hname.append hclose (Or.inr (by decide))
    exact hopen.append hrest (Or.inl (by decide))

/-- **A cut at commas passes over a key**, whose own commas stand inside its brackets.  Where one
bracket too many was closed, the bracket of the key would bring the depth back to zero. -/
theorem splitAt_text_append {depth : Int} (h : depth ≠ -1) (rest : Text) :
    Bracket.splitAt ',' depth (k.text ++ rest) =
      Bracket.prependFirst k.text (Bracket.splitAt ',' depth rest) := by
  cases k with
  | bare name isName =>
    have hdotted := Name.isDottedChar_of_mem (Name.isDotted_of_isName isName)
    have hcomma : ',' ∉ name := fun hmem =>
      Name.ne_of_isDottedChar (hdotted _ hmem) (by decide) (by decide) rfl
    have hdepth : Bracket.depthAfter depth name = depth :=
      Bracket.depthAfter_eq_self (fun c hc => ⟨Name.isOpener_of_isDottedChar (hdotted c hc),
        Name.isCloser_of_isDottedChar (hdotted c hc)⟩) depth
    show Bracket.splitAt ',' depth (name ++ rest) = Bracket.prependFirst name _
    rw [Bracket.splitAt_append_of_not_mem hcomma, hdepth]
  | quoted name _ plain =>
    have hinside : ∀ c ∈ '"' :: (name ++ ['"']),
        Bracket.isOpener c = false ∧ Bracket.isCloser c = false := by
      intro c hc
      simp only [List.mem_cons, List.mem_append, List.not_mem_nil, or_false] at hc
      rcases hc with rfl | hc | rfl
      · decide
      · exact isBracket_of_isPlain (plain c hc)
      · decide
    have hclose : Bracket.step (depth + 1) ']' = depth := by
      show depth + 1 - 1 = depth
      omega
    -- no comma divides between the brackets, where the depth is not zero
    have hdeep := Bracket.splitAt_append_of_deep ',' hinside
      (show depth + 1 ≠ 0 by omega) (']' :: rest)
    have hsplit : '"' :: (name ++ ['"', ']'] ++ rest) = '"' :: (name ++ ['"']) ++ ']' :: rest := by
      simp
    show Bracket.splitAt ',' depth ('[' :: '"' :: (name ++ ['"', ']'] ++ rest)) = _
    rw [Bracket.splitAt_cons (by simp), hsplit, show Bracket.step depth '[' = depth + 1 from rfl,
      hdeep, Bracket.splitAt_cons (by simp), hclose]
    cases hparts : Bracket.splitAt ',' depth rest with
    | nil => exact absurd hparts (Bracket.splitAt_ne_nil _ _ _)
    | cons p ps => simp [Bracket.consFirst, Bracket.prependFirst, text]

/-- A key is read as a whole in front of a blank. -/
theorem readKey?_text_append (rest : Text) :
    Tag.readKey? (k.text ++ ' ' :: rest) = some (k.isQuoted, k.name, ' ' :: rest) := by
  cases k with
  | bare name isName =>
    cases name with
    | nil => cases isName
    | cons c cs =>
      have hquoted : Tag.readQuotedKey? (c :: (cs ++ ' ' :: rest)) = none := by
        rw [Tag.readQuotedKey?]
        rintro _ ⟨⟩
        rw [Name.isName, Bool.and_eq_true] at isName
        exact absurd isName.1 (by decide)
      have hread : Name.read? (c :: (cs ++ ' ' :: rest)) = some (c :: cs, ' ' :: rest) :=
        Name.read?_append_of_isName isName fun d hd => by cases hd; decide
      show Tag.readKey? (c :: (cs ++ ' ' :: rest)) = _
      rw [Tag.readKey?, hquoted, hread]
      rfl
  | quoted name nonempty plain =>
    have hinside : ∀ c ∈ name, (!Tag.isQuote c) = true := by
      intro c hc
      rw [isQuote_of_isPlain (plain c hc)]
      rfl
    cases name with
    | nil => exact absurd rfl nonempty
    | cons c cs =>
      have htake : (c :: (cs ++ '"' :: ']' :: ' ' :: rest)).takeWhile (!Tag.isQuote ·) =
          c :: cs := by
        rw [← List.cons_append, List.takeWhile_append_of_pos hinside]
        simp [Tag.isQuote]
      have hdrop : (c :: (cs ++ '"' :: ']' :: ' ' :: rest)).dropWhile (!Tag.isQuote ·) =
          '"' :: ']' :: ' ' :: rest := by
        rw [← List.cons_append, List.dropWhile_append_of_pos hinside]
        simp [Tag.isQuote]
      have hread : Tag.readQuotedKey? ('[' :: '"' :: c :: (cs ++ '"' :: ']' :: ' ' :: rest)) =
          some (c :: cs, ' ' :: rest) := by
        rw [Tag.readQuotedKey?, Text.trimLeft_cons (by decide)]
        simp only [htake, hdrop, Text.trimLeft_cons (show Text.isBlank ']' = false by decide)]
        rfl
      have happend : (quoted (c :: cs) nonempty plain ‹_›).text ++ ' ' :: rest =
          '[' :: '"' :: c :: (cs ++ '"' :: ']' :: ' ' :: rest) := by
        simp [text]
      rw [happend, Tag.readKey?, hread]
      rfl

end Key

/-! ### Values -/

/-- **A value that can be read**: it is not blank and holds no comma, no brace and no two dashes. -/
structure Readable (value : Text) : Prop where
  visible : ∃ c ∈ value, Text.isBlank c = false
  noEnd : ∀ c ∈ value, Tag.endsValue c = false
  noDashes : Text.NoDashes value

variable {u tail w : Text}

theorem valueEnd?_append_of_blank (h : ∀ c ∈ u, Text.isBlank c = true) (tail : Text) :
    Tag.valueEnd? (u ++ tail) = Tag.valueEnd? tail := by
  rw [Tag.valueEnd?, Tag.valueEnd?, Text.trimLeft_append_of_blank h]

theorem afterComma?_cons {c : Char} {t : Text} (h : c ≠ '-' ∨ t.head? ≠ some '-') :
    Tag.afterComma? (c :: t) = none := by
  rw [Tag.afterComma?]
  · intro he
    cases he
  · rintro cs ⟨⟩
    rcases h with h | h
    · exact h rfl
    · exact h rfl

/-- A value goes on as long as something visible follows that is no comment. -/
theorem valueEnd?_append_of_visible (hvisible : ∃ c ∈ u, Text.isBlank c = false)
    (hend : ∀ c ∈ u, Tag.endsValue c = false) (hdashes : Text.NoDashes u)
    (htail : tail.head? ≠ some '-') : Tag.valueEnd? (u ++ tail) = none := by
  obtain ⟨blanks, c, rest, rfl, -, htrim⟩ := Text.exists_trimLeft_append hvisible
  have hcomma : c ≠ ',' := by
    rintro rfl
    exact absurd (hend ',' (by simp)) (by decide)
  have hdash : c ≠ '-' ∨ (rest ++ tail).head? ≠ some '-' := by
    by_cases hc : c = '-'
    · refine Or.inr ?_
      cases rest with
      | nil => exact htail
      | cons d rest =>
        have hchain := (List.isChain_append.1 hdashes).2.1
        have hpair := (List.isChain_cons_cons.1 hchain).1
        intro hd
        exact hpair ⟨hc, by simpa using hd⟩
    · exact Or.inl hc
  rw [Tag.valueEnd?, htrim]
  split
  · rename_i he
    exact absurd (List.cons.inj he).1 hcomma
  · exact afterComma?_cons hdash

/-- **The shortest value in front of an end** is the whole text up to its last visible
character. -/
theorem readValue?_append (hne : w ≠ [])
    (hlast : ∀ c, w.getLast? = some c → Text.isBlank c = false)
    (hend : ∀ c ∈ w, Tag.endsValue c = false) (hdashes : Text.NoDashes w)
    (htail : Tag.valueEnd? tail = some []) (hdash : tail.head? ≠ some '-') :
    Tag.readValue? (w ++ tail) = some (w, []) := by
  induction w with
  | nil => exact absurd rfl hne
  | cons c w ih =>
    have hc := hend c (List.mem_cons_self ..)
    rw [List.cons_append, Tag.readValue?, hc]
    cases w with
    | nil =>
      rw [List.nil_append, htail]
      rfl
    | cons d w =>
      have htail' : ∀ e ∈ d :: w, Tag.endsValue e = false :=
        fun e he => hend e (List.mem_cons_of_mem _ he)
      have hdashes' : Text.NoDashes (d :: w) := (List.isChain_cons_cons.1 hdashes).2
      have hlast' : ∀ e, (d :: w).getLast? = some e → Text.isBlank e = false := by
        intro e he
        exact hlast e (by rw [List.getLast?_cons_cons]; exact he)
      have hvisible : ∃ e ∈ d :: w, Text.isBlank e = false := by
        have hmem := List.getLast_mem (List.cons_ne_nil d w)
        exact ⟨_, hmem, hlast' _ (List.getLast?_eq_some_getLast (List.cons_ne_nil d w))⟩
      -- no shorter value will do, since something visible stands in front of the end
      rw [valueEnd?_append_of_visible hvisible htail' hdashes' hdash,
        ih (by simp) hlast' htail' hdashes']
      rfl

/-- Nothing is read where no end comes before a comma. -/
theorem readValue?_eq_none (hend : ∀ c ∈ u, Tag.endsValue c = false) (hdashes : Text.NoDashes u)
    {more : Text} (hmore : Tag.afterComma? (Text.trimLeft more) = none) :
    Tag.readValue? (u ++ ',' :: more) = none := by
  have hcomma : Tag.valueEnd? (',' :: more) = none := by
    rw [Tag.valueEnd?, Text.trimLeft_cons (by decide)]
    exact hmore
  induction u with
  | nil => rfl
  | cons c u ih =>
    have hend' : ∀ d ∈ u, Tag.endsValue d = false :=
      fun d hd => hend d (List.mem_cons_of_mem _ hd)
    have hdashes' : Text.NoDashes u := (List.isChain_cons.1 hdashes).2
    have hstop : Tag.valueEnd? (u ++ ',' :: more) = none := by
      by_cases hvisible : ∃ d ∈ u, Text.isBlank d = false
      · exact valueEnd?_append_of_visible hvisible hend' hdashes' (by simp)
      · have hblank : ∀ d ∈ u, Text.isBlank d = true := by
          intro d hd
          by_contra hne
          exact hvisible ⟨d, hd, by simpa using hne⟩
        rw [valueEnd?_append_of_blank hblank, hcomma]
    rw [List.cons_append, Tag.readValue?, hend c (List.mem_cons_self ..), hstop, ih hend' hdashes']
    rfl

/-- The trimmed form of a readable value, as it stands behind the equals sign. -/
theorem Readable.trim_spec {value : Text} (h : Readable value) :
    Text.trim value ≠ [] ∧
      (∀ c, (Text.trim value).getLast? = some c → Text.isBlank c = false) ∧
      (∀ c ∈ Text.trim value, Tag.endsValue c = false) ∧ Text.NoDashes (Text.trim value) := by
  obtain ⟨c, hc, hvisible⟩ := h.visible
  have hwithin := Text.trim_isInfix value
  exact ⟨Text.trim_ne_nil hc hvisible, (Text.isTrimmed_trim value).2,
    fun d hd => h.noEnd d (hwithin.subset hd), List.IsChain.infix h.noDashes hwithin⟩

/-! ### Entries -/

/-- An entry of a table: a key and the text of its value. -/
structure Entry where
  key : Key
  value : Text

namespace Entry

variable (e : Entry) {indent : Text}

/-- An entry as it is written. -/
def text : Text := e.key.text ++ ' ' :: '=' :: ' ' :: e.value

/-- What an entry says: its name and its trimmed value. -/
def pair : Text × Text := (e.key.name, Text.trim e.value)

/-- Reading an entry comes down to reading the value behind the equals sign. -/
theorem entry?_append (hindent : ∀ c ∈ indent, Text.isBlank c = true) (tail : Text) :
    Tag.entry? (indent ++ (e.text ++ tail)) =
      (Tag.readAssigned? (' ' :: (e.value ++ tail))).map fun r =>
        (⟨e.key.isQuoted, e.key.name, r.1⟩, r.2) := by
  obtain ⟨c, cs, hkey, hc, -⟩ := e.key.exists_text_cons
  have htrim : Text.trimLeft (indent ++ (e.text ++ tail)) =
      e.key.text ++ ' ' :: '=' :: ' ' :: (e.value ++ tail) := by
    rw [Text.trimLeft_append_of_blank hindent, text, hkey]
    simp only [List.cons_append, List.append_assoc]
    rw [Text.trimLeft_cons hc]
  have hequals : Text.trimLeft (' ' :: '=' :: ' ' :: (e.value ++ tail)) =
      '=' :: ' ' :: (e.value ++ tail) := rfl
  rw [Tag.entry?, htrim, Key.readKey?_text_append]
  simp only [Option.bind_eq_bind, Option.bind_some, hequals]
  cases Tag.readAssigned? (' ' :: (e.value ++ tail)) <;> rfl

/-- **An entry is read back** from any indentation and in front of any end of a value. -/
theorem entry?_text (h : Readable e.value) (hindent : ∀ c ∈ indent, Text.isBlank c = true)
    {tail : Text} (htail : Tag.valueEnd? tail = some []) (hdash : tail.head? ≠ some '-') :
    Tag.entry? (indent ++ (e.text ++ tail)) =
      some (⟨e.key.isQuoted, e.key.name, Text.trim e.value⟩, []) := by
  obtain ⟨hne, hlast, hend, hdashes⟩ := h.trim_spec
  obtain ⟨blanks, hblanks, hblank⟩ := Text.exists_trimLeft_eq e.value
  have htrim : Text.trimLeft (' ' :: (e.value ++ tail)) =
      Text.trim e.value ++ (blanks ++ tail) := by
    obtain ⟨_, c, rest, -, -, htrim⟩ := Text.exists_trimLeft_append h.visible
    have hvalue := htrim []
    rw [List.append_nil, List.append_nil] at hvalue
    show Text.trimLeft (e.value ++ tail) = _
    rw [htrim, ← List.append_assoc, ← hblanks, hvalue]
    rfl
  have hdash' : (blanks ++ tail).head? ≠ some '-' := by
    cases blanks with
    | nil => exact hdash
    | cons b blanks =>
      intro he
      have hb := hblank b (List.mem_cons_self ..)
      rw [show b = '-' by simpa using he] at hb
      exact absurd hb (by decide)
  have hread : Tag.readValue? (Text.trim e.value ++ (blanks ++ tail)) =
      some (Text.trim e.value, []) :=
    readValue?_append hne hlast hend hdashes
      (by rw [valueEnd?_append_of_blank hblank, htail]) hdash'
  rw [entry?_append e hindent, Tag.readAssigned?, htrim, hread]
  rfl

/-- **An entry that shares its part with another one is lost**: behind its comma nothing but blanks
and a comment may follow. -/
theorem entry?_text_comma (h : Readable e.value) (hindent : ∀ c ∈ indent, Text.isBlank c = true)
    {more : Text} (hmore : Tag.afterComma? (Text.trimLeft more) = none) :
    Tag.entry? (indent ++ (e.text ++ ',' :: more)) = none := by
  obtain ⟨blanks, c, rest, hvalue, hc, htrim⟩ := Text.exists_trimLeft_append h.visible
  have hsuffix : c :: rest <:+ e.value := ⟨blanks, hvalue.symm⟩
  have hend : ∀ d ∈ c :: rest, Tag.endsValue d = false := fun d hd => h.noEnd d (hsuffix.subset hd)
  have hdashes : Text.NoDashes (c :: rest) := List.IsChain.infix h.noDashes hsuffix.isInfix
  have htrim' : Text.trimLeft (' ' :: (e.value ++ ',' :: more)) = c :: rest ++ ',' :: more :=
    htrim _
  -- a blank in front of the value could be read in its place, but no end follows it either
  have hstop : Tag.valueEnd? (c :: rest ++ ',' :: more) = none :=
    valueEnd?_append_of_visible ⟨c, List.mem_cons_self .., hc⟩ hend hdashes (by simp)
  rw [entry?_append e hindent, Tag.readAssigned?, htrim', readValue?_eq_none hend hdashes hmore,
    hstop]
  cases (List.takeWhile Text.isBlank (' ' :: (e.value ++ ',' :: more))).getLast? <;> rfl

end Entry

/-! ### What no value holds -/

theorem infix_of_readValue? {t value rest : Text} (h : Tag.readValue? t = some (value, rest)) :
    value <+: t ∧ ∀ c ∈ value, Tag.endsValue c = false := by
  induction t generalizing value with
  | nil => cases h
  | cons c t ih =>
    rw [Tag.readValue?] at h
    split at h
    · cases h
    · rename_i hc
      have hc : Tag.endsValue c = false := by simpa using hc
      split at h
      · cases h
        exact ⟨⟨t, rfl⟩, by simpa using hc⟩
      · obtain ⟨⟨value', rest'⟩, hr, he⟩ := Option.map_eq_some_iff.1 h
        obtain ⟨rfl, rfl⟩ := Prod.mk.inj he
        obtain ⟨hfront, hend⟩ := ih hr
        exact ⟨List.cons_prefix_cons.2 ⟨rfl, hfront⟩, List.forall_mem_cons.2 ⟨hc, hend⟩⟩

theorem suffix_of_readQuotedKey? {t key rest : Text}
    (h : Tag.readQuotedKey? t = some (key, rest)) : rest <:+ t := by
  unfold Tag.readQuotedKey? at h
  split at h
  · rename_i cs
    split at h
    · rename_i q behind hquote
      split at h
      · split at h
        · rename_i c name close after hname hdrop
          split at h
          · rename_i last hlast
            cases h
            have h₁ : ']' :: rest <:+ after := hlast ▸ List.dropWhile_suffix _
            have h₂ : close :: after <:+ behind := hdrop ▸ List.dropWhile_suffix _
            have h₃ : q :: behind <:+ cs := hquote ▸ List.dropWhile_suffix _
            have h₄ : after <:+ cs := ((List.suffix_cons ..).trans h₂).trans
              ((List.suffix_cons ..).trans h₃)
            exact ((List.suffix_cons ..).trans (h₁.trans h₄)).trans (List.suffix_cons ..)
          · cases h
        · cases h
      · cases h
    · cases h
  · cases h

theorem suffix_of_readKey? {t key rest : Text} {quoted : Bool}
    (h : Tag.readKey? t = some (quoted, key, rest)) : rest <:+ t := by
  rcases Option.or_eq_some_iff.1 h with h | ⟨-, h⟩
  · obtain ⟨⟨_, _⟩, hread, he⟩ := Option.map_eq_some_iff.1 h
    cases he
    exact suffix_of_readQuotedKey? hread
  · obtain ⟨⟨_, _⟩, hread, he⟩ := Option.map_eq_some_iff.1 h
    cases he
    exact ⟨_, Name.read?_append hread⟩

theorem infix_of_readAssigned? {t value rest : Text}
    (h : Tag.readAssigned? t = some (value, rest)) :
    value <:+: t ∧ ∀ c ∈ value, Tag.endsValue c = false := by
  rcases Option.or_eq_some_iff.1 h with h | ⟨-, h⟩
  · obtain ⟨hfront, hend⟩ := infix_of_readValue? h
    exact ⟨hfront.isInfix.trans (List.dropWhile_suffix _).isInfix, hend⟩
  · -- a blank in front of the end
    obtain ⟨last, hlast, h⟩ := Option.bind_eq_some_iff.1 h
    obtain ⟨_, -, h⟩ := Option.bind_eq_some_iff.1 h
    cases h
    have hmem := List.mem_of_getLast? hlast
    have hblank : Text.isBlank last = true := List.mem_takeWhile_imp hmem
    have hfront : t.takeWhile Text.isBlank <+: t := List.takeWhile_prefix _
    obtain ⟨front, back, ht⟩ := List.append_of_mem (hfront.subset hmem)
    refine ⟨⟨front, back, by simp [ht]⟩, ?_⟩
    intro c hc
    rw [List.mem_singleton.1 hc]
    simp only [Tag.endsValue, Bool.or_eq_false_iff, beq_eq_false_iff_ne]
    refine ⟨⟨?_, ?_⟩, ?_⟩ <;> rintro rfl <;> exact absurd hblank (by decide)

/-- **What no value holds**: the value of an entry stands in the text that was read, and holds no
comma and no brace. -/
theorem infix_of_entry? {t rest : Text} {entry : Tag.Entry}
    (h : Tag.entry? t = some (entry, rest)) :
    entry.value <:+: t ∧ ∀ c ∈ entry.value, Tag.endsValue c = false := by
  obtain ⟨⟨quoted, key, behind⟩, hkey, h⟩ := Option.bind_eq_some_iff.1 h
  simp only at h
  split at h
  · rename_i cs hequals
    obtain ⟨⟨value, rest'⟩, hvalue, h⟩ := Option.bind_eq_some_iff.1 h
    cases h
    obtain ⟨hwithin, hend⟩ := infix_of_readAssigned? hvalue
    have h₁ : '=' :: cs <:+ behind := hequals ▸ List.dropWhile_suffix _
    have h₂ : behind <:+ Text.trimLeft t := suffix_of_readKey? hkey
    have h₃ : behind <:+ t := h₂.trans (List.dropWhile_suffix _)
    exact ⟨hwithin.trans ((List.suffix_cons ..).trans (h₁.trans h₃)).isInfix, hend⟩
  · cases h

end EnumTable

end LuaAtlas
