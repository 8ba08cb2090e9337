import LuaAtlas.Proofs.Declaration.Blocks

/-!
# Lines of tables

A line of an enumeration's table holds entries with commas between and around them (`Row`), in
slots that may also be empty (`Slot`), and ends with blanks and a comment if wanted (`LineEnd`).  If
no value has brackets or quotes, a line gives exactly the entries that stand on it (`Row.holds`,
`Row.ends`): no slot holds a comma outside the brackets of its key, so the commas cut the line into
its slots, and a comment starts behind everything else.

An entry alone on its line is read whatever brackets its value has, with a comma behind it or
without one (`Entry.enumValues_text`).
-/

namespace LuaAtlas

namespace EnumTable

/-! ### Entries on a line -/

section Entries

variable (e : Entry) {indent : Text}

theorem isPlain_of_isBlank {c : Char} (h : Text.isBlank c = true)
    (hbreak : Text.isLineBreak c = false) : isPlain c = true := by
  have hne (d : Char) (hd : Text.isBlank d = false) : (c == d) = false :=
    beq_eq_false_iff_ne.2 (Text.ne_of_isBlank h hd)
  simp [isPlain, Bracket.isOpener, Bracket.isCloser, Tag.isQuote, hbreak, hne '<' (by decide),
    hne '(' (by decide), hne '[' (by decide), hne '{' (by decide), hne '>' (by decide),
    hne ')' (by decide), hne ']' (by decide), hne '}' (by decide), hne '"' (by decide),
    hne '\'' (by decide)]

theorem Readable.not_mem {value : Text} (h : Readable value) {c : Char}
    (hc : Tag.endsValue c = true) : c ∉ value := by
  intro hmem
  rw [h.noEnd c hmem] at hc
  cases hc

/-- A cut at commas passes over an entry and moves on at the depth behind its value. -/
theorem Entry.splitAt_append (hindent : ∀ c ∈ indent, Text.isBlank c = true)
    (hcomma : ',' ∉ e.value) {depth : Int} (hdepth : depth ≠ -1) (rest : Text) :
    Bracket.splitAt ',' depth (indent ++ (e.text ++ rest)) =
      Bracket.prependFirst (indent ++ e.text)
        (Bracket.splitAt ',' (Bracket.depthAfter depth e.value) rest) := by
  have hblanks : ',' ∉ indent := fun h => Text.ne_of_isBlank (hindent _ h) (by decide) rfl
  have hindent' : Bracket.depthAfter depth indent = depth :=
    Bracket.depthAfter_eq_self (fun c hc => Bracket.isBracket_of_isBlank (hindent c hc)) _
  have hassigned : ',' ∉ ' ' :: '=' :: ' ' :: e.value := by simpa using hcomma
  have hne (d : Int) : Bracket.splitAt ',' d rest ≠ [] := Bracket.splitAt_ne_nil _ _ _
  rw [Bracket.splitAt_append_of_not_mem hblanks, hindent', Entry.text, List.append_assoc,
    e.key.splitAt_text_append hdepth, Bracket.splitAt_append_of_not_mem hassigned]
  show Bracket.prependFirst indent (Bracket.prependFirst e.key.text (Bracket.prependFirst _
    (Bracket.splitAt ',' (Bracket.depthAfter depth e.value) rest))) = _
  rw [Bracket.prependFirst_append _ _ (hne _), Bracket.prependFirst_append _ _ (hne _)]

/-- An entry in front of the end of a value is read with its trimmed value. -/
theorem Entry.valueIn?_text {t : Text} (h : Readable e.value)
    (hindent : ∀ c ∈ indent, Text.isBlank c = true) (line : Nat)
    (ht : Tag.valueEnd? t = some []) (hdash : t.head? ≠ some '-') :
    Declaration.valueIn? line (indent ++ (e.text ++ t)) =
      some (Declaration.valueAt line e.pair) := by
  rw [Declaration.valueIn?, e.entry?_text h hindent ht hdash]
  show some (⟨line, e.key.name, Text.trim (Text.trim e.value)⟩ : EnumValue) = _
  rw [Text.trim_eq_self (Text.isTrimmed_trim e.value)]
  rfl

/-- **An entry alone on its line** is read with a comma behind it or without one. -/
theorem Entry.enumValues_text (h : Readable e.value)
    (hindent : ∀ c ∈ indent, Text.isBlank c = true) (comma : Bool) (line : Nat) :
    Declaration.enumValues line (indent ++ (e.text ++ if comma then [','] else [])) =
      [Declaration.valueAt line e.pair] := by
  have hcomma : ',' ∉ e.value := h.not_mem rfl
  have hwhole := e.valueIn?_text h hindent line (t := []) rfl (by simp)
  rw [List.append_nil] at hwhole
  rw [Declaration.enumValues_eq, Bracket.splitTop, e.splitAt_append hindent hcomma (by decide)]
  cases comma with
  | false =>
    simp only [Bool.false_eq_true, ↓reduceIte, Bracket.splitAt, Bracket.prependFirst,
      List.append_nil, List.filterMap_cons, hwhole, List.filterMap_nil]
  | true =>
    by_cases hdepth : Bracket.depthAfter 0 e.value = 0
    · -- the comma divides, and nothing stands behind it
      have hcut : Bracket.splitAt ',' 0 [','] = [[], []] := by decide
      have hnone : Declaration.valueIn? line [] = none := rfl
      rw [hdepth, ite_cond_eq_true _ _ (eq_self true), hcut]
      simp only [Bracket.prependFirst, List.append_nil, List.filterMap_cons, hwhole, hnone,
        List.filterMap_nil]
    · -- the brackets of the value hide the comma, which then ends the value
      have hwhole := e.valueIn?_text h hindent line (t := [',']) rfl (by simp)
      rw [← List.append_assoc] at hwhole
      rw [ite_cond_eq_true _ _ (eq_self true), Bracket.splitAt_cons fun hd => hdepth hd.2]
      simp only [Bracket.splitAt, Bracket.consFirst, Bracket.prependFirst, List.filterMap_cons,
        hwhole, List.filterMap_nil]

theorem Entry.noDashes_text (h : Readable e.value)
    (hindent : ∀ c ∈ indent, Text.isBlank c = true) : Text.NoDashes (indent ++ e.text) := by
  have hblanks : Text.NoDashes indent :=
    Text.noDashes_of_forall fun c hc => Text.ne_of_isBlank (hindent c hc) (by decide)
  have hvalue : Text.NoDashes (' ' :: '=' :: ' ' :: e.value) :=
    Text.NoDashes.append (t := [' ', '=', ' ']) (Text.noDashes_iff.2 rfl) h.noDashes
      (Or.inl (by decide))
  have htext : Text.NoDashes e.text := e.key.noDashes_text.append hvalue (Or.inr (by simp))
  refine hblanks.append htext (Or.inl fun hlast => ?_)
  exact Text.ne_of_isBlank (hindent _ (List.mem_of_getLast? hlast)) (by decide) rfl

/-- A line with one entry and nothing else. -/
theorem Entry.holds_text (h : Readable e.value) (hindent : ∀ c ∈ indent, Text.isBlank c = true)
    (comma : Bool) :
    Declaration.Holds (indent ++ (e.text ++ if comma then [','] else [])) [e.pair] := by
  have hdashes : Text.NoDashes (indent ++ (e.text ++ if comma then [','] else [])) := by
    rw [← List.append_assoc]
    refine (e.noDashes_text h hindent).append ?_ (Or.inr ?_)
    · cases comma
      · exact .nil
      · exact .singleton _
    · cases comma <;> simp
  have hbrace : '}' ∉ indent ++ (e.text ++ if comma then [','] else []) := by
    intro hmem
    rcases List.mem_append.1 hmem with hmem | hmem
    · exact Text.ne_of_isBlank (hindent _ hmem) (by decide) rfl
    · rcases List.mem_append.1 hmem with hmem | hmem
      · rcases List.mem_append.1 hmem with hmem | hmem
        · exact e.key.not_mem_text (by decide) (by decide) hmem
        · exact h.not_mem (c := '}') (by decide) (by simpa using hmem)
      · cases comma
        · cases hmem
        · cases List.mem_singleton.1 hmem
  constructor
  · rw [Declaration.beforeComment_eq_self hdashes]
    exact hbrace
  · intro line
    rw [Declaration.beforeComment_eq_self hdashes, e.enumValues_text h hindent]
    rfl

/-- A line that starts with an entry is no marker line. -/
theorem Entry.isMarkerLine_text (hindent : ∀ c ∈ indent, Text.isBlank c = true) (rest : Text) :
    isMarkerLine (indent ++ (e.text ++ rest)) = false := by
  obtain ⟨c, cs, hkey, hblank, hdash, -⟩ := e.key.exists_text_cons
  have htext : e.text ++ rest = c :: (cs ++ ' ' :: '=' :: ' ' :: (e.value ++ rest)) := by
    simp [text, hkey]
  have hhead : (indent ++ (e.text ++ rest)).head? ≠ some '-' := by
    cases indent with
    | nil => simpa [htext] using hdash
    | cons b indent =>
      simpa using Text.ne_of_isBlank (hindent b (List.mem_cons_self ..)) (by decide)
  have htrim : Text.trimLeft (indent ++ (e.text ++ rest)) =
      c :: (cs ++ ' ' :: '=' :: ' ' :: (e.value ++ rest)) := by
    rw [Text.trimLeft_append_of_blank hindent, htext, Text.trimLeft_cons hblank]
  -- a name could be the word `function`, but then the sign stands where its own name would
  cases hk : e.key with
  | bare name isName =>
    rw [hk] at hkey
    have hname : ∀ d ∈ name, Text.isBlank d = false := fun d hd =>
      Name.isBlank_of_isDottedChar (Name.isDottedChar_of_mem (Name.isDotted_of_isName isName) d hd)
    have hline : Text.trimLeft (indent ++ (e.text ++ rest)) =
        name ++ ' ' :: '=' :: (' ' :: (e.value ++ rest)) := by
      rw [htrim, show name = c :: cs from hkey]
      rfl
    exact isMarkerLine_assignment hhead hname hline
  | quoted name =>
    rw [hk] at hkey
    refine isMarkerLine_of_head? hhead ?_
    rw [htrim]
    obtain ⟨rfl, -⟩ := List.cons.inj hkey
    simp

end Entries

/-! ### Slots, rows and ends of lines -/

/-- **A plain value**: not blank, and without commas, brackets, quotes, line breaks and two
dashes. -/
structure IsPlainValue (value : Text) : Prop where
  visible : ∃ c ∈ value, Text.isBlank c = false
  plain : ∀ c ∈ value, isPlain c = true ∧ c ≠ ','
  noDashes : Text.containsText "--".toList value = false

theorem IsPlainValue.readable {value : Text} (h : IsPlainValue value) : Readable value where
  visible := h.visible
  noDashes := Text.noDashes_iff.2 h.noDashes
  noEnd := by
    intro c hc
    obtain ⟨hplain, hcomma⟩ := h.plain c hc
    have hopen := ne_of_isPlain hplain (d := '{') (by decide)
    have hclose := ne_of_isPlain hplain (d := '}') (by decide)
    simp [Tag.endsValue, hcomma, hopen, hclose]

theorem IsPlainValue.depthAfter_eq {value : Text} (h : IsPlainValue value) (depth : Int) :
    Bracket.depthAfter depth value = depth :=
  Bracket.depthAfter_eq_self (fun c hc => isBracket_of_isPlain (h.plain c hc).1) depth

/-- What stands between two commas of a table: blanks, and an entry behind them or nothing. -/
structure Slot where
  indent : Text
  entry : Option Entry
  blank : ∀ c ∈ indent, Text.isBlank c = true ∧ Text.isLineBreak c = false
  plain : ∀ e ∈ entry, IsPlainValue e.value

/-- How a line ends: with blanks, and with a comment if wanted, which stands behind a blank. -/
structure LineEnd where
  blanks : Text
  comment : Option Text
  blank : ∀ c ∈ blanks, Text.isBlank c = true ∧ c ≠ '\n'
  apart : comment ≠ none → blanks ≠ []
  oneLine : ∀ t ∈ comment, '\n' ∉ t

/-- The part of a table on one line: slots with commas between them. -/
structure Row where
  slots : List Slot
  ending : LineEnd

namespace Slot

variable (s : Slot)

/-- A slot as it is written. -/
def text : Text := s.indent ++ (s.entry.map Entry.text).getD []

theorem mem_text {c : Char} (h : c ∈ s.text) : isPlain c = true ∨ c = '[' ∨ c = ']' ∨ c = '"' := by
  rcases List.mem_append.1 h with h | h
  · obtain ⟨hblank, hbreak⟩ := s.blank c h
    exact Or.inl (isPlain_of_isBlank hblank hbreak)
  · cases he : s.entry with
    | none =>
      rw [he] at h
      cases h
    | some e =>
      have hplain := s.plain e he
      rw [he] at h
      rcases List.mem_append.1 h with h | h
      · exact e.key.mem_text h
      · refine Or.inl ?_
        simp only [List.mem_cons] at h
        rcases h with rfl | rfl | rfl | h
        · decide
        · decide
        · decide
        · exact (hplain.plain c h).1

theorem noDashes_text : Text.NoDashes s.text := by
  have hindent : ∀ c ∈ s.indent, Text.isBlank c = true := fun c hc => (s.blank c hc).1
  cases he : s.entry with
  | none =>
    simp only [text, he, Option.map_none, Option.getD_none, List.append_nil]
    exact Text.noDashes_of_forall fun c hc => Text.ne_of_isBlank (hindent c hc) (by decide)
  | some e =>
    simp only [text, he, Option.map_some, Option.getD_some]
    exact e.noDashes_text (s.plain e he).readable hindent

/-- A cut at commas passes over a slot. -/
theorem splitAt_append (rest : Text) :
    Bracket.splitAt ',' 0 (s.text ++ rest) =
      Bracket.prependFirst s.text (Bracket.splitAt ',' 0 rest) := by
  have hindent : ∀ c ∈ s.indent, Text.isBlank c = true := fun c hc => (s.blank c hc).1
  cases he : s.entry with
  | none =>
    have hcomma : ',' ∉ s.indent := fun h => Text.ne_of_isBlank (hindent _ h) (by decide) rfl
    simp only [text, he, Option.map_none, Option.getD_none, List.append_nil]
    rw [Bracket.splitAt_append_of_not_mem hcomma,
      Bracket.depthAfter_eq_self fun c hc => Bracket.isBracket_of_isBlank (hindent c hc)]
  | some e =>
    have hplain := s.plain e he
    simp only [text, he, Option.map_some, Option.getD_some, List.append_assoc]
    rw [e.splitAt_append hindent (hplain.readable.not_mem rfl) (by decide), hplain.depthAfter_eq]

/-- A slot in front of blanks is read as its entry. -/
theorem valueIn?_text (blanks : Text) (hblanks : ∀ c ∈ blanks, Text.isBlank c = true)
    (line : Nat) :
    Declaration.valueIn? line (s.text ++ blanks) =
      s.entry.map fun e => Declaration.valueAt line e.pair := by
  have hindent : ∀ c ∈ s.indent, Text.isBlank c = true := fun c hc => (s.blank c hc).1
  cases he : s.entry with
  | none =>
    have hempty : Text.trimLeft (s.indent ++ blanks) = [] := by
      rw [Text.trimLeft_append_of_blank hindent, Text.trimLeft_eq_nil hblanks]
    simp only [text, he, Option.map_none, Option.getD_none, List.append_nil]
    rw [Declaration.valueIn?, Tag.entry?, hempty]
    rfl
  | some e =>
    have hend : Tag.valueEnd? blanks = some [] := by
      rw [Tag.valueEnd?, Text.trimLeft_eq_nil hblanks]
      rfl
    have hdash : blanks.head? ≠ some '-' := fun h =>
      Text.ne_of_isBlank (hblanks _ (List.mem_of_head? h)) (by decide) rfl
    simp only [text, he, Option.map_some, Option.getD_some, List.append_assoc]
    exact e.valueIn?_text (s.plain e he).readable hindent line hend hdash

end Slot

namespace LineEnd

variable (e : LineEnd)

/-- The end of a line as it is written. -/
def text : Text := e.blanks ++ (e.comment.map ('-' :: '-' :: ·)).getD []

/-- The end of a line without the carriage returns at the end of it. -/
def dropReturns : LineEnd where
  blanks := if e.comment = none then Text.dropTrailing (· == '\r') e.blanks else e.blanks
  comment := e.comment.map (Text.dropTrailing (· == '\r'))
  blank := by
    intro c hc
    split at hc
    · exact e.blank c ((Text.dropTrailing_isPrefix _ _).subset hc)
    · exact e.blank c hc
  apart := by
    intro h
    have hcomment : e.comment ≠ none := fun hn => h (by rw [hn]; rfl)
    rw [ite_cond_eq_false _ _ (eq_false hcomment)]
    exact e.apart hcomment
  oneLine := by
    intro t ht
    obtain ⟨u, hu, rfl⟩ := Option.map_eq_some_iff.1 ht
    exact fun hmem => e.oneLine u hu ((Text.dropTrailing_isPrefix _ _).subset hmem)

theorem dropTrailing_append {t : Text} (h : '\r' ∉ t) :
    Text.dropTrailing (· == '\r') (t ++ e.text) = t ++ e.dropReturns.text := by
  have hlast : ∀ c, t.getLast? = some c → (c == '\r') = false := by
    intro c hc
    exact beq_eq_false_iff_ne.2 fun he => h (he ▸ List.mem_of_getLast? hc)
  rw [Text.dropTrailing_append hlast]
  cases hc : e.comment with
  | none => simp [text, dropReturns, hc]
  | some comment =>
    -- returns are dropped up to the dashes at most, even if the comment holds nothing else
    have hdashes : ∀ c, (e.blanks ++ ['-', '-']).getLast? = some c → (c == '\r') = false := by
      intro c hc
      rw [List.getLast?_append_of_ne_nil _ (by simp)] at hc
      cases hc
      rfl
    have hsplit : e.blanks ++ '-' :: '-' :: comment = (e.blanks ++ ['-', '-']) ++ comment := by simp
    simp only [text, dropReturns, hc, Option.map_some, Option.getD_some, reduceCtorEq, ↓reduceIte]
    rw [hsplit, Text.dropTrailing_append hdashes]
    simp

theorem not_mem_text : '\n' ∉ e.text := by
  intro h
  rcases List.mem_append.1 h with h | h
  · exact (e.blank _ h).2 rfl
  · cases hc : e.comment with
    | none =>
      rw [hc] at h
      cases h
    | some comment =>
      rw [hc] at h
      have hmem : '\n' ∈ comment := by simpa using h
      exact e.oneLine comment hc hmem

/-- The end of a line starts with a blank. -/
theorem isBlank_of_head? {c : Char} (h : e.text.head? = some c) : Text.isBlank c = true := by
  cases hb : e.blanks with
  | nil =>
    have hcomment : e.comment = none := by
      by_contra hne
      exact e.apart hne hb
    simp [text, hb, hcomment] at h
  | cons b blanks =>
    have hc : b = c := by simpa [text, hb] using h
    exact (e.blank c (hb ▸ hc ▸ List.mem_cons_self ..)).1

theorem head?_trimLeft_text : (Text.trimLeft e.text).head? ≠ some 'f' := by
  rw [text, Text.trimLeft_append_of_blank fun c hc => (e.blank c hc).1]
  cases e.comment with
  | none => simp [Text.trimLeft]
  | some comment =>
    show (Text.trimLeft ('-' :: '-' :: comment)).head? ≠ some 'f'
    rw [Text.trimLeft_cons (by decide)]
    simp

/-- **A comment is dropped**, and the blanks in front of it stay. -/
theorem beforeComment_append {t : Text} (h : Text.NoDashes t) :
    Declaration.beforeComment (t ++ e.text) = t ++ e.blanks := by
  have hblank : ∀ c ∈ e.blanks, c ≠ '-' :=
    fun c hc => Text.ne_of_isBlank (e.blank c hc).1 (by decide)
  have hblanks : Text.NoDashes e.blanks := Text.noDashes_of_forall hblank
  have hfront : Text.NoDashes (t ++ e.blanks) :=
    h.append hblanks (Or.inr fun hd => hblank _ (List.mem_of_head? hd) rfl)
  cases hc : e.comment with
  | none =>
    simp only [text, hc, Option.map_none, Option.getD_none, List.append_nil]
    exact Declaration.beforeComment_eq_self hfront
  | some comment =>
    -- the blank in front of the comment keeps a dash at the end of `t` away from it
    have hlast : (t ++ e.blanks).getLast? ≠ some '-' := by
      rw [List.getLast?_append_of_ne_nil _ (e.apart (by simp [hc]))]
      exact fun hd => hblank _ (List.mem_of_getLast? hd) rfl
    simp only [text, hc, Option.map_some, Option.getD_some]
    rw [← List.append_assoc, Declaration.beforeComment_append hfront (Or.inl hlast)]
    simp [Declaration.beforeComment]

end LineEnd

namespace Row

variable (r : Row)

/-- The entries on a line. -/
def entries : List Entry := r.slots.filterMap (·.entry)

/-- The names and values on a line. -/
def pairs : List (Text × Text) := r.entries.map Entry.pair

/-- The slots of a line with commas between them. -/
def inside : Text := Text.join [','] (r.slots.map Slot.text)

/-- A line in front of the last one of a table. -/
def line : Text := r.inside ++ r.ending.text

/-- The last line of a table. -/
def closing : Text := r.inside ++ '}' :: r.ending.text

/-- A line without the carriage returns at the end of it. -/
def dropReturns : Row := { r with ending := r.ending.dropReturns }

end Row

theorem mem_join_slots {slots : List Slot} {c : Char}
    (h : c ∈ Text.join [','] (slots.map Slot.text)) :
    isPlain c = true ∨ c = '[' ∨ c = ']' ∨ c = '"' := by
  rcases Text.mem_join h with h | ⟨_, ht, h⟩
  · rw [List.mem_singleton.1 h]
    exact Or.inl (by decide)
  · obtain ⟨s, -, rfl⟩ := List.mem_map.1 ht
    exact s.mem_text h

theorem noDashes_join_slots (slots : List Slot) :
    Text.NoDashes (Text.join [','] (slots.map Slot.text)) := by
  refine Text.noDashes_join fun t ht => ?_
  obtain ⟨s, -, rfl⟩ := List.mem_map.1 ht
  exact s.noDashes_text

/-- **The commas cut a line into its slots**, so it gives the entries in them. -/
theorem enumValues_join_slots (slots : List Slot) (blanks : Text)
    (hblanks : ∀ c ∈ blanks, Text.isBlank c = true) (line : Nat) :
    Declaration.enumValues line (Text.join [','] (slots.map Slot.text) ++ blanks) =
      (slots.filterMap (·.entry)).map fun e => Declaration.valueAt line e.pair := by
  have hcomma : ',' ∉ blanks := fun h => Text.ne_of_isBlank (hblanks _ h) (by decide) rfl
  rw [Declaration.enumValues_eq, Bracket.splitTop]
  -- the blanks stand behind the last slot, so a single slot is a case of its own
  induction slots with
  | nil =>
    have hnone : Declaration.valueIn? line blanks = none := by
      rw [Declaration.valueIn?, Tag.entry?, Text.trimLeft_eq_nil hblanks]
      rfl
    show List.filterMap _ (Bracket.splitAt ',' 0 blanks) = []
    rw [Bracket.splitAt_eq_self hcomma]
    simp [hnone]
  | cons s slots ih =>
    cases slots with
    | nil =>
      show List.filterMap _ (Bracket.splitAt ',' 0 (s.text ++ blanks)) = _
      rw [s.splitAt_append, Bracket.splitAt_eq_self hcomma]
      simp only [Bracket.prependFirst, List.filterMap_cons, s.valueIn?_text blanks hblanks,
        List.filterMap_nil]
      cases s.entry <;> rfl
    | cons s' slots =>
      have hfirst := s.valueIn?_text [] (by simp) line
      rw [List.append_nil] at hfirst
      rw [List.map_cons, List.map_cons, Text.join, List.append_assoc, List.append_assoc,
        s.splitAt_append, List.singleton_append, Bracket.splitAt_separator rfl rfl, ← List.map_cons]
      simp only [Bracket.prependFirst, List.append_nil, List.filterMap_cons, hfirst]
      rw [ih]
      cases s.entry <;> rfl

namespace Row

variable (r : Row)

theorem not_mem_inside {c : Char} (h : isPlain c = false) (hc : c ≠ '[' ∧ c ≠ ']' ∧ c ≠ '"') :
    c ∉ r.inside := by
  intro hmem
  rcases mem_join_slots hmem with hplain | rfl | rfl | rfl
  · exact ne_of_isPlain hplain h rfl
  · exact hc.1 rfl
  · exact hc.2.1 rfl
  · exact hc.2.2 rfl

theorem holds : Declaration.Holds r.line r.pairs := by
  have hblanks : ∀ c ∈ r.ending.blanks, Text.isBlank c = true := fun c hc => (r.ending.blank c hc).1
  have hbody : Declaration.beforeComment r.line = r.inside ++ r.ending.blanks :=
    r.ending.beforeComment_append (noDashes_join_slots r.slots)
  constructor
  · rw [hbody]
    intro hmem
    rcases List.mem_append.1 hmem with h | h
    · exact r.not_mem_inside (by decide) (by decide) h
    · exact Text.ne_of_isBlank (hblanks _ h) (by decide) rfl
  · intro line
    rw [hbody, inside, enumValues_join_slots r.slots _ hblanks, pairs, List.map_map]
    rfl

theorem ends : Declaration.Ends r.closing r.pairs := by
  have hbrace : '}' ∉ r.inside := r.not_mem_inside (by decide) (by decide)
  have hfront : Text.NoDashes (r.inside ++ ['}']) :=
    (noDashes_join_slots r.slots).append (.singleton _) (Or.inr (by decide))
  have hbody : Declaration.beforeComment r.closing = r.inside ++ '}' :: r.ending.blanks := by
    have happend := r.ending.beforeComment_append hfront
    simpa [closing] using happend
  have hpass : ∀ c ∈ r.inside, (c != '}') = true :=
    fun c hc => bne_iff_ne.2 fun e => hbrace (e ▸ hc)
  have htake : (r.inside ++ '}' :: r.ending.blanks).takeWhile (· != '}') = r.inside := by
    rw [List.takeWhile_append_of_pos hpass]
    simp
  constructor
  · rw [hbody]
    simp
  · intro line
    have hvalues := enumValues_join_slots r.slots [] (by simp) line
    rw [List.append_nil] at hvalues
    rw [hbody, htake, inside, hvalues, pairs, List.map_map]
    rfl

/-- A line of a table is no marker line. -/
theorem isMarkerLine_inside {tail : Text} (hdash : tail.head? ≠ some '-')
    (hhead : (Text.trimLeft tail).head? ≠ some 'f') : isMarkerLine (r.inside ++ tail) = false := by
  cases hslots : r.slots with
  | nil =>
    rw [inside, hslots]
    exact isMarkerLine_of_head? hdash hhead
  | cons s slots =>
    -- behind the first slot stands a comma or the end of the line
    obtain ⟨tail', hline, hdash', hhead'⟩ : ∃ tail', r.inside ++ tail = s.text ++ tail' ∧
        tail'.head? ≠ some '-' ∧ (Text.trimLeft tail').head? ≠ some 'f' := by
      cases slots with
      | nil => exact ⟨tail, by rw [inside, hslots]; rfl, hdash, hhead⟩
      | cons s' slots =>
        refine ⟨',' :: (Text.join [','] ((s' :: slots).map Slot.text) ++ tail), ?_, by simp, ?_⟩
        · rw [inside, hslots]
          simp [Text.join]
        · rw [Text.trimLeft_cons (by decide)]
          simp
    have hindent : ∀ c ∈ s.indent, Text.isBlank c = true := fun c hc => (s.blank c hc).1
    rw [hline, Slot.text, List.append_assoc]
    cases s.entry with
    | some e => exact e.isMarkerLine_text hindent tail'
    | none =>
      refine isMarkerLine_of_head? ?_ ?_
      · cases hi : s.indent with
        | nil => exact hdash'
        | cons b indent =>
          have hb := hindent b (hi ▸ List.mem_cons_self ..)
          simpa using Text.ne_of_isBlank hb (by decide)
      · rw [Text.trimLeft_append_of_blank hindent]
        exact hhead'

theorem isMarkerLine_line : isMarkerLine r.line = false :=
  r.isMarkerLine_inside (fun h => absurd (r.ending.isBlank_of_head? h) (by decide))
    r.ending.head?_trimLeft_text

theorem isMarkerLine_closing : isMarkerLine r.closing = false :=
  r.isMarkerLine_inside (by simp) (by rw [Text.trimLeft_cons (by decide)]; simp)

end Row

end EnumTable

end LuaAtlas
