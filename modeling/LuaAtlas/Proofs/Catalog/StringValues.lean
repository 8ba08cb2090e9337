import LuaAtlas.Proofs.Catalog.Enumerations

/-!
# Quoted values

The lines of a table are searched for commas, braces and comments before anything is known about
quotes.  A quoted value is therefore recorded as it is written exactly if none of these stands
between its quotes (`StringEntry.IsClean`).  That such a value is recorded follows from how a
readable entry is read; that no other one is follows from what no value ever holds
(`clean_of_mem_enumBlock`).

`Catalog.ofTexts_stringTable` says so for a table with one quoted value to a line.
-/

namespace LuaAtlas

/-! ### Quoted values -/

/-- An entry whose value stands between quotes, with its indentation. -/
structure StringEntry where
  indent : Text
  key : EnumTable.Key
  /-- The quote on both sides of the content. -/
  mark : Char
  content : Text
  blank : ∀ c ∈ indent, Text.isBlank c = true ∧ c ≠ '\n'
  isQuote : Tag.isQuote mark = true
  oneLine : '\n' ∉ content

namespace StringEntry

variable (e : StringEntry)

/-- The content with its quotes. -/
def literal : Text := e.mark :: (e.content ++ [e.mark])

/-- The entry of a table that a quoted value is. -/
def entry : EnumTable.Entry := ⟨e.key, e.literal⟩

/-- The line of a quoted value, with a comma behind it. -/
def line : Text := e.indent ++ (e.entry.text ++ [','])

/-- **Nothing between the quotes looks like the end of a value**: no comma, no brace and no two
dashes. -/
structure IsClean : Prop where
  noEnd : ∀ c ∈ e.content, c ≠ ',' ∧ c ≠ '{' ∧ c ≠ '}'
  noDashes : Text.containsText "--".toList e.content = false

theorem mark_ne {c : Char} (hc : Tag.isQuote c = false) : e.mark ≠ c := by
  rintro rfl
  rw [e.isQuote] at hc
  cases hc

/-- What both quotes have in common. -/
theorem mark_cases (p : Char → Bool) (hdouble : p '"' = true) (hsingle : p '\'' = true) :
    p e.mark = true := by
  have hmark := e.isQuote
  simp only [Tag.isQuote, Bool.or_eq_true, beq_iff_eq] at hmark
  rcases hmark with h | h
  · rwa [h]
  · rwa [h]

theorem isBlank_mark : Text.isBlank e.mark = false := by
  simpa using e.mark_cases (fun c => !Text.isBlank c) (by decide) (by decide)

/-- A quoted value is readable exactly if nothing between its quotes looks like the end of one. -/
theorem isClean_iff : e.IsClean ↔
    (∀ c ∈ e.literal, Tag.endsValue c = false) ∧ Text.NoDashes e.literal := by
  have hmark : Tag.endsValue e.mark = false ∧ e.mark ≠ '-' := by
    refine ⟨?_, e.mark_ne (by decide)⟩
    simpa using e.mark_cases (fun c => !Tag.endsValue c) (by decide) (by decide)
  have hends (c : Char) : Tag.endsValue c = false ↔ c ≠ ',' ∧ c ≠ '{' ∧ c ≠ '}' := by
    simp [Tag.endsValue, and_assoc]
  constructor
  · rintro ⟨hend, hdashes⟩
    constructor
    · intro c hc
      rcases List.mem_cons.1 hc with rfl | hc
      · exact hmark.1
      · rcases List.mem_append.1 hc with hc | hc
        · exact (hends c).2 (hend c hc)
        · rw [List.mem_singleton.1 hc]
          exact hmark.1
    · have hsingle : Text.NoDashes [e.mark] := .singleton _
      have hfront : [e.mark].getLast? ≠ some '-' := by simpa using hmark.2
      have hback : [e.mark].head? ≠ some '-' := by simpa using hmark.2
      exact hsingle.append ((Text.noDashes_iff.2 hdashes).append hsingle (Or.inr hback))
        (Or.inl hfront)
  · rintro ⟨hend, hdashes⟩
    have hwithin : e.content <:+: e.literal := ⟨[e.mark], [e.mark], by simp [literal]⟩
    have hcontent : Text.NoDashes e.content := List.IsChain.infix hdashes hwithin
    exact ⟨fun c hc => (hends c).1 (hend c (hwithin.subset hc)), Text.noDashes_iff.1 hcontent⟩

variable {e} in
theorem IsClean.readable (h : e.IsClean) : EnumTable.Readable e.literal where
  visible := ⟨e.mark, List.mem_cons_self .., e.isBlank_mark⟩
  noEnd := (e.isClean_iff.1 h).1
  noDashes := (e.isClean_iff.1 h).2

theorem pair_entry : e.entry.pair = (e.key.name, e.literal) := by
  have htrim : Text.trim e.literal = e.literal :=
    Text.trim_eq_self (Text.isTrimmed_between e.isBlank_mark e.isBlank_mark e.content)
  rw [EnumTable.Entry.pair, entry, htrim]

/-- The type of a quoted value. -/
theorem typeOfValue_literal : Literal.typeOfValue e.literal = "string".toList := by
  have hmarks : ['"', '\''].contains e.mark = true :=
    e.mark_cases (fun c => ['"', '\''].contains c) (by decide) (by decide)
  have hsign : Literal.unsigned e.literal = e.literal := by
    rw [literal, Literal.unsigned]
    exact fun _ h => e.mark_ne (by decide) (List.cons.inj h).1
  have hdecimal : Text.isDecimal e.mark = false := by
    simpa using e.mark_cases (fun c => !Text.isDecimal c) (by decide) (by decide)
  have hinteger : Literal.isInteger e.literal = false := by
    have hhex : Literal.isHex e.literal = false := by
      rw [literal, Literal.isHex]
      exact fun _ _ h => e.mark_ne (by decide) (List.cons.inj h).1
    rw [Literal.isInteger, hsign, hhex, Literal.isDigits, literal, List.all_cons, hdecimal]
    simp
  have hfraction : Literal.isFraction e.literal = false := by
    rw [Literal.isFraction, hsign, literal, List.dropWhile_cons_of_neg (by simp [hdecimal])]
    split
    · rename_i hdot
      exact absurd (List.cons.inj hdot).1 (e.mark_ne (by decide))
    · rfl
  have hbetween : Literal.isBetween ['"', '\''] e.literal = true :=
    Literal.isBetween_cons_append hmarks e.content
  rw [Literal.typeOfValue, hinteger, hfraction, hbetween]
  rfl

/-- The line of a quoted value is no marker line and stays one line. -/
theorem line_spec : isMarkerLine e.line = false ∧ '\n' ∉ e.line ∧ e.line.getLast? ≠ some '\r' := by
  have hindent : ∀ c ∈ e.indent, Text.isBlank c = true := fun c hc => (e.blank c hc).1
  refine ⟨e.entry.isMarkerLine_text hindent _, fun hmem => ?_, ?_⟩
  · rcases List.mem_append.1 hmem with hmem | hmem
    · exact (e.blank _ hmem).2 rfl
    · rcases List.mem_append.1 hmem with hmem | hmem
      · rcases List.mem_append.1 hmem with hmem | hmem
        · exact e.key.not_mem_text (by decide) (by decide) hmem
        · have hliteral : '\n' ∈ e.literal := by simpa [entry] using hmem
          rcases List.mem_cons.1 hliteral with hmark | hcontent
          · exact e.mark_ne (by decide) hmark.symm
          · rcases List.mem_append.1 hcontent with hcontent | hmark
            · exact e.oneLine hcontent
            · exact e.mark_ne (by decide) (List.mem_singleton.1 hmark).symm
      · exact absurd hmem (by decide)
  · rw [line, ← List.append_assoc, List.getLast?_concat]
    decide

end StringEntry

/-! ### Tables of quoted values -/

/-- A table with one quoted value to a line, between the lines of its braces. -/
structure StringTable where
  name : Text
  isDotted : Name.isDotted name = true
  /-- What stands in front of the opening brace. -/
  before : Text
  noBrace : '{' ∉ before
  oneLine : '\n' ∉ before
  noMarker : isMarkerLine (before ++ ['{']) = false
  entries : List StringEntry

namespace StringTable

variable (t : StringTable)

/-- The lines of the table. -/
def tableLines : List Text := (t.before ++ ['{']) :: (t.entries.map StringEntry.line ++ [['}']])

/-- **The text of a table.** -/
def text : Text := Text.ofLines (EnumTable.headline t.name :: t.tableLines) 0

/-- The number of the line with the closing brace. -/
def lastLine : Nat := t.entries.length + 3

/-- What is read below the marker. -/
def block : Declaration.EnumBlock := Declaration.enumBlock false 1 t.tableLines

theorem tableLines_spec : ∀ line ∈ t.tableLines,
    isMarkerLine line = false ∧ '\n' ∉ line ∧ line.getLast? ≠ some '\r' := by
  intro line hline
  rcases List.mem_cons.1 hline with rfl | hline
  · refine ⟨t.noMarker, fun hmem => ?_, by rw [List.getLast?_concat]; decide⟩
    rcases List.mem_append.1 hmem with hmem | hmem
    · exact t.oneLine hmem
    · exact absurd hmem (by decide)
  · rcases List.mem_append.1 hline with hline | hline
    · obtain ⟨e, -, rfl⟩ := List.mem_map.1 hline
      exact e.line_spec
    · rw [List.mem_singleton.1 hline]
      decide

/-- The file that holds the table declares its enumeration and nothing else. -/
theorem ofLines_text :
    Declaration.ofLines (Text.lines t.text) =
      [.enumDecl 1 (1 + t.block.taken) t.name t.block.values t.block.ending] :=
  EnumTable.ofLines_ofLines t.isDotted t.tableLines_spec

/-- If all values are clean, the block holds all of them and ends with the closing brace. -/
theorem block_of_isClean (h : ∀ e ∈ t.entries, e.IsClean) :
    t.block = ⟨Declaration.valuesFrom 2
      ([] :: (t.entries.map fun e => [(e.key.name, e.literal)]) ++ [[]]), .closed,
      t.entries.length + 2⟩ := by
  have hlines : List.Forall₂ Declaration.Holds (t.entries.map StringEntry.line)
      (t.entries.map fun e => [(e.key.name, e.literal)]) := by
    rw [List.forall₂_map_left_iff, List.forall₂_map_right_iff, List.forall₂_same]
    intro e he
    rw [← e.pair_entry]
    exact e.entry.holds_text (h e he).readable (fun c hc => (e.blank c hc).1) true
  have hfirst : t.before ++ ['{'] ++ [] = t.before ++ ['{'] := List.append_nil _
  have hblock := Declaration.enumBlock_table t.noBrace (.cons EnumTable.holds_nil hlines)
    EnumTable.ends_brace
  simp only [List.cons_append, Bracket.prependFirst, hfirst, List.length_cons,
    List.length_map] at hblock
  have hall := hblock (fun line hline => (t.tableLines_spec line hline).1) 1 []
  rw [List.append_nil] at hall
  exact hall

/-- A block that holds all values has only clean ones. -/
theorem isClean_of_block {e : StringEntry}
    (h : ∃ value ∈ t.block.values, value.value = e.literal) : e.IsClean := by
  obtain ⟨value, hmem, hvalue⟩ := h
  have hclean := Declaration.clean_of_mem_enumBlock hmem
  rw [hvalue] at hclean
  exact e.isClean_iff.2 hclean

end StringTable

namespace Catalog

/-- **Which quoted values survive.**  The file that holds a table of quoted values becomes one
enumeration.  It has all values in order, as they are written and with the type of strings, and ends
at the closing brace, exactly if no comma, no brace and no two dashes stand between any quotes. -/
theorem ofTexts_stringTable (v : Vocabulary) (t : StringTable) :
    ∃ s, (ofTexts v [t.text]).symbols = [s] ∧ s.kind = .enumKind ∧ s.name = t.name ∧
      (s.values.map (fun m => (m.name, m.value, m.rawType)) =
          t.entries.map (fun e => (e.key.name, some e.literal, "string".toList)) ∧
        s.lastLine = t.lastLine ↔ ∀ e ∈ t.entries, e.IsClean) := by
  rw [ofTexts_enumDecl v t.ofLines_text]
  refine ⟨_, rfl, rfl, rfl, ?_⟩
  show (EnumValue.membersFrom 0 0 1 t.block.values).map _ = _ ∧ 1 + t.block.taken = _ ↔ _
  rw [EnumValue.map_membersFrom
    (g := fun e => (e.name, some e.value, Literal.typeOfValue e.value)) fun _ _ => rfl]
  constructor
  · rintro ⟨hvalues, -⟩ e he
    -- the literal is the value of some member, and every such value is clean
    refine t.isClean_of_block ?_
    have hmem : (e.key.name, some e.literal, "string".toList) ∈ t.block.values.map
        (fun e => (e.name, some e.value, Literal.typeOfValue e.value)) := by
      rw [hvalues]
      exact List.mem_map_of_mem he
    obtain ⟨value, hvalue, heq⟩ := List.mem_map.1 hmem
    simp only [Prod.mk.injEq, Option.some.injEq] at heq
    exact ⟨value, hvalue, heq.2.1⟩
  · intro hclean
    have hblock := t.block_of_isClean hclean
    have hlast : 1 + (t.entries.length + 2) = t.lastLine := by
      rw [StringTable.lastLine]
      omega
    have hpairs : (Declaration.valuesFrom 2
        ([] :: (t.entries.map fun e => [(e.key.name, e.literal)]) ++ [[]])).map
          (fun e => (e.name, e.value)) = t.entries.map fun e => (e.key.name, e.literal) := by
      rw [Declaration.map_valuesFrom, Declaration.flatten_singletons]
    have htyped := congrArg
      (List.map fun p : Text × Text => (p.1, some p.2, Literal.typeOfValue p.2)) hpairs
    rw [List.map_map, List.map_map] at htyped
    rw [hblock]
    refine ⟨htyped.trans (List.map_congr_left fun e _ => ?_), hlast⟩
    show (e.key.name, some e.literal, Literal.typeOfValue e.literal) = _
    rw [e.typeOfValue_literal]

/-- A table of two quoted values with different quotes. -/
def twoStrings : StringTable where
  name := "Mode".toList
  isDotted := by decide
  before := "Mode = ".toList
  noBrace := by decide
  oneLine := by decide
  noMarker := by decide
  entries := [⟨"  ".toList, .bare "On".toList (by decide), '"', "a - b".toList, by simp; decide,
      by decide, by decide⟩,
    ⟨['\t'], .bare "Off".toList (by decide), '\'', "[#]".toList, by simp; decide, by decide,
      by decide⟩]

/-- What stands between the quotes has no comma, no brace and no two dashes. -/
theorem ofTexts_stringTable_two :
    ∃ s, (ofTexts .standard
        ["---@enum Mode\nMode = \x7b\n  On = \"a - b\",\n\tOff = '[#]',\n\x7d".toList]).symbols = [s] ∧
      s.values.map (fun m => (m.name, m.value, m.rawType)) =
        [("On".toList, some "\"a - b\"".toList, "string".toList),
          ("Off".toList, some "'[#]'".toList, "string".toList)] ∧
      s.lastLine = 5 := by
  have htext : twoStrings.text =
      "---@enum Mode\nMode = \x7b\n  On = \"a - b\",\n\tOff = '[#]',\n\x7d".toList := by
    decide
  obtain ⟨s, hsymbols, -, -, hiff⟩ := ofTexts_stringTable .standard twoStrings
  rw [htext] at hsymbols
  obtain ⟨hvalues, hlast⟩ := hiff.2 fun e he => by
    simp only [twoStrings, List.mem_cons, List.not_mem_nil, or_false] at he
    rcases he with rfl | rfl
    · exact ⟨by simp, by decide⟩
    · exact ⟨by simp, by decide⟩
  exact ⟨s, hsymbols, hvalues, hlast⟩

/-- A brace between quotes ends the table. -/
theorem brace_between_quotes :
    let c := ofTexts .standard
      ["---@enum E\nE = \x7b\n  A = \"\x7d\",\n  B = \"b\",\n\x7d".toList]
    c.enumValues.map (fun m => (m.name, m.value, m.rawType)) =
        [("A".toList, some "\"".toList, "any".toList)] ∧
      c.enums.map (·.lastLine) = [3] := by
  decide +kernel

end Catalog

end LuaAtlas
