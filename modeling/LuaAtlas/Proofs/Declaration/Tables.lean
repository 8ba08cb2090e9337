import LuaAtlas.Proofs.Declaration.Rows

/-!
# Tables in any layout

An `EnumTable` is the table of an enumeration as it is laid out on lines: the first line starts with
the opening brace, the last line has the closing one, and the entries stand on these lines as they
like.  Its text is `EnumTable.text`.

Whatever the layout, the block that is read holds the entries in order, each on its own line
(`enumBlock_tableLines`), and the file that holds the table declares nothing else
(`ofLines_text`).
-/

namespace LuaAtlas

/-! ### Tables -/

/-- **The table of an enumeration in any layout.**  The rows are its lines, the last of which has
the closing brace; empty lines may follow. -/
structure EnumTable where
  name : Text
  isDotted : Name.isDotted name = true
  /-- How the line of the marker ends. -/
  headEnd : EnumTable.LineEnd
  rows : List EnumTable.Row
  last : EnumTable.Row
  empty : Nat

namespace EnumTable

/-- What stands in front of the opening brace. -/
def opening (name : Text) : Text := name ++ [' ', '=', ' ']

/-- The line of an enumeration's marker. -/
def headline (name : Text) : Text := "---@enum".toList ++ ' ' :: name

theorem marker?_headline {name rest : Text} (h : Name.isDotted name = true)
    (hrest : ∀ c, rest.head? = some c → ¬ Name.IsDottedChar c) :
    marker? (headline name ++ rest) = some (.enumDef name) := by
  obtain ⟨c, cs, hname, hc⟩ := Name.exists_cons_of_isDotted h
  have hblank := Name.isBlank_of_isRest (Name.isRest_of_isStart hc)
  have hparen : c ≠ '(' := Name.ne_of_isRest (Name.isRest_of_isStart hc) (by decide)
  have htrim : Text.trimLeft (name ++ rest) = name ++ rest := by
    rw [hname, List.cons_append, Text.trimLeft_cons hblank]
  have hattribute : Marker.skipAttribute (name ++ rest) = name ++ rest := by
    rw [hname, List.cons_append, Marker.skipAttribute]
    rintro _ ⟨⟩
    exact hparen rfl
  have hline : headline name ++ rest = "---@enum".toList ++ ' ' :: (name ++ rest) :=
    List.append_assoc ..
  have hclass : Marker.readClass? (headline name ++ rest) = none := by
    rw [hline]
    rfl
  have henum : Marker.readEnum? (headline name ++ rest) = some (.enumDef name, rest) := by
    have hafter : Text.after? "---@enum".toList (headline name ++ rest) =
        some (' ' :: (name ++ rest)) := Text.after?_eq_some_iff.2 hline
    have hskip : Text.skipBlanks? (' ' :: (name ++ rest)) = some (name ++ rest) := by
      show some (Text.trimLeft (name ++ rest)) = _
      rw [htrim]
    rw [Marker.readEnum?, hafter]
    simp only [Option.bind_eq_bind, Option.bind_some, hskip, hattribute,
      Name.readDotted?_append_of_isDotted h hrest]
  simp [marker?, classify, Marker.readers, hclass, henum]

/-- **A file with one enumeration** gives the block below its marker. -/
theorem ofLines_headline {name u : Text} {below : List Text} (h : Name.isDotted name = true)
    (hu : ∀ c, u.head? = some c → ¬ Name.IsDottedChar c)
    (hbelow : ∀ line ∈ below, isMarkerLine line = false) :
    Declaration.ofLines ((headline name ++ u) :: below) =
      [.enumDecl 1 (1 + (Declaration.enumBlock false 1 below).taken) name
        (Declaration.enumBlock false 1 below).values
        (Declaration.enumBlock false 1 below).ending] :=
  Declaration.ofLines_cons (marker?_headline h hu) hbelow

theorem isLineBreak_of_mem_headline {name : Text} (h : Name.isDotted name = true) :
    ∀ c ∈ headline name, Text.isLineBreak c = false := by
  intro c hc
  rcases List.mem_append.1 hc with hc | hc
  · have hword : "---@enum".toList.all (!Text.isLineBreak ·) = true := by decide
    simpa using List.all_eq_true.1 hword c hc
  · rcases List.mem_cons.1 hc with rfl | hc
    · rfl
    · exact isLineBreak_of_isPlain (isPlain_of_isDottedChar (Name.isDottedChar_of_mem h c hc))

theorem of_mem_opening {name : Text} (h : Name.isDotted name = true) :
    ∀ c ∈ opening name, Text.isLineBreak c = false ∧ c ≠ '{' := by
  intro c hc
  rcases List.mem_append.1 hc with hc | hc
  · have hdotted := Name.isDottedChar_of_mem h c hc
    exact ⟨isLineBreak_of_isPlain (isPlain_of_isDottedChar hdotted),
      Name.ne_of_isDottedChar hdotted (by decide) (by decide)⟩
  · have hsign : [' ', '=', ' '].all (fun d => !Text.isLineBreak d && d != '{') = true := by decide
    simpa using List.all_eq_true.1 hsign c hc

/-- The line with the opening brace is no marker line. -/
theorem isMarkerLine_opening {name : Text} (h : Name.isDotted name = true) (rest : Text) :
    isMarkerLine (opening name ++ rest) = false := by
  obtain ⟨c, cs, hname, hc⟩ := Name.exists_cons_of_isDotted h
  have hblank : ∀ d ∈ name, Text.isBlank d = false :=
    fun d hd => Name.isBlank_of_isDottedChar (Name.isDottedChar_of_mem h d hd)
  have hdash : c ≠ '-' := Name.ne_of_isRest (Name.isRest_of_isStart hc) (by decide)
  have hline : opening name ++ rest = name ++ ' ' :: '=' :: (' ' :: rest) := by
    rw [opening, List.append_assoc]
    rfl
  have htrim : Text.trimLeft (opening name ++ rest) = name ++ ' ' :: '=' :: (' ' :: rest) := by
    rw [hline, hname, List.cons_append,
      Text.trimLeft_cons (hblank c (hname ▸ List.mem_cons_self ..))]
  refine isMarkerLine_assignment ?_ hblank htrim
  rw [hline, hname]
  simpa using hdash

/-- **A text with one enumeration** gives the block below its marker. -/
theorem ofLines_ofLines {name : Text} {below : List Text} (hname : Name.isDotted name = true)
    (hbelow : ∀ line ∈ below,
      isMarkerLine line = false ∧ '\n' ∉ line ∧ line.getLast? ≠ some '\r') :
    Declaration.ofLines (Text.lines (Text.ofLines (headline name :: below) 0)) =
      [.enumDecl 1 (1 + (Declaration.enumBlock false 1 below).taken) name
        (Declaration.enumBlock false 1 below).values
        (Declaration.enumBlock false 1 below).ending] := by
  have hclean : ∀ line ∈ headline name :: below, '\n' ∉ line ∧ line.getLast? ≠ some '\r' := by
    intro line hline
    rcases List.mem_cons.1 hline with rfl | hline
    · exact Text.clean_of_isLineBreak (isLineBreak_of_mem_headline hname)
    · exact (hbelow line hline).2
  have hdecl := ofLines_headline (u := []) hname (by simp) fun line hline => (hbelow line hline).1
  rw [List.append_nil] at hdecl
  rw [Text.lines_ofLines_eq_self hclean (by simp), hdecl]

/-- **A text with a table whose lines are known** declares its enumeration and nothing else. -/
theorem ofLines_table {name opening closing : Text} {lines : List Text}
    {pairss : List (List (Text × Text))} {pairs : List (Text × Text)}
    (hname : Name.isDotted name = true) (hopening : '{' ∉ opening)
    (hlines : List.Forall₂ Declaration.Holds lines pairss)
    (hclosing : Declaration.Ends closing pairs)
    (htable : ∀ line ∈ Bracket.prependFirst (opening ++ ['{']) (lines ++ [closing]),
      isMarkerLine line = false ∧ '\n' ∉ line ∧ line.getLast? ≠ some '\r') :
    Declaration.ofLines (Text.lines (Text.ofLines (headline name ::
        Bracket.prependFirst (opening ++ ['{']) (lines ++ [closing])) 0)) =
      [.enumDecl 1 (lines.length + 2) name (Declaration.valuesFrom 2 (pairss ++ [pairs]))
        .closed] := by
  have hblock := Declaration.enumBlock_table hopening hlines hclosing
    (fun line hline => (htable line hline).1) 1 []
  rw [List.append_nil] at hblock
  have htaken : 1 + (lines.length + 1) = lines.length + 2 := by omega
  rw [ofLines_ofLines hname htable, hblock, htaken]

/-- The first line of a table may hold nothing but the opening brace. -/
theorem holds_nil : Declaration.Holds [] [] := ⟨by simp [Declaration.beforeComment], fun _ => rfl⟩

/-- The last line of a table may hold nothing but the closing brace. -/
theorem ends_brace : Declaration.Ends ['}'] [] := ⟨by decide, fun _ => rfl⟩

variable (t : EnumTable)

/-- The lines of the table. -/
def tableLines : List Text :=
  Bracket.prependFirst (opening t.name ++ ['{']) (t.rows.map Row.line ++ [t.last.closing])

/-- The lines of the file that holds the table. -/
def lines : List Text := (headline t.name ++ t.headEnd.text) :: t.tableLines

/-- **The text of a table.** -/
def text : Text := Text.ofLines t.lines t.empty

/-- The number of the line with the closing brace. -/
def lastLine : Nat := t.rows.length + 2

/-- The entries of rows in order, each with the number of its line. -/
def placedFrom (first : Nat) : List Row → List (Nat × Entry)
  | [] => []
  | r :: rows => r.entries.map (first, ·) ++ placedFrom (first + 1) rows

/-- **The entries of a table in order**, each with the number of its line. -/
def placed : List (Nat × Entry) := placedFrom 2 (t.rows ++ [t.last])

/-- The table without the carriage returns at the ends of its lines. -/
def dropReturns : EnumTable :=
  { t with headEnd := t.headEnd.dropReturns, rows := t.rows.map Row.dropReturns,
           last := t.last.dropReturns }

/-! ### The lines of a table -/

theorem map_prependFirst {f : Text → Text} {p : Text} (h : ∀ l, f (p ++ l) = p ++ f l)
    {ls : List Text} (hne : ls ≠ []) :
    (Bracket.prependFirst p ls).map f = Bracket.prependFirst p (ls.map f) := by
  cases ls with
  | nil => exact absurd rfl hne
  | cons l ls => simp [Bracket.prependFirst, h]

theorem mem_prependFirst {p l : Text} {ls : List Text} (hne : ls ≠ [])
    (h : l ∈ Bracket.prependFirst p ls) : l ∈ ls ∨ ∃ l' ∈ ls, l = p ++ l' := by
  cases ls with
  | nil => exact absurd rfl hne
  | cons l' ls =>
    rcases List.mem_cons.1 h with rfl | h
    · exact Or.inr ⟨l', List.mem_cons_self .., rfl⟩
    · exact Or.inl (List.mem_cons_of_mem _ h)

theorem dropTrailing_line (r : Row) :
    Text.dropTrailing (· == '\r') r.line = r.dropReturns.line :=
  r.ending.dropTrailing_append (r.not_mem_inside (by decide) (by decide))

theorem dropTrailing_closing (r : Row) :
    Text.dropTrailing (· == '\r') r.closing = r.dropReturns.closing := by
  have hfront : '\r' ∉ r.inside ++ ['}'] := by
    have hinside := r.not_mem_inside (c := '\r') (by decide) (by decide)
    simpa using hinside
  have happend := r.ending.dropTrailing_append hfront
  rw [List.append_assoc, List.append_assoc] at happend
  exact happend

theorem not_mem_rowLines : ∀ l ∈ t.rows.map Row.line ++ [t.last.closing], '\n' ∉ l := by
  have hinside (r : Row) : '\n' ∉ r.inside := r.not_mem_inside (by decide) (by decide)
  intro l hl
  rcases List.mem_append.1 hl with hl | hl
  · obtain ⟨r, -, rfl⟩ := List.mem_map.1 hl
    exact fun h => (List.mem_append.1 h).elim (hinside r) r.ending.not_mem_text
  · rw [List.mem_singleton.1 hl]
    intro h
    rcases List.mem_append.1 h with h | h
    · exact hinside _ h
    · rcases List.mem_cons.1 h with h | h
      · cases h
      · exact t.last.ending.not_mem_text h

theorem not_mem_lines : ∀ l ∈ t.lines, '\n' ∉ l := by
  intro l hl hmem
  rcases List.mem_cons.1 hl with rfl | hl
  · rcases List.mem_append.1 hmem with hmem | hmem
    · cases isLineBreak_of_mem_headline t.isDotted _ hmem
    · exact t.headEnd.not_mem_text hmem
  · rcases mem_prependFirst (by simp) hl with hrow | ⟨row, hrow, rfl⟩
    · exact t.not_mem_rowLines l hrow hmem
    · rcases List.mem_append.1 hmem with hmem | hmem
      · rcases List.mem_append.1 hmem with hmem | hmem
        · cases (of_mem_opening t.isDotted _ hmem).1
        · exact absurd hmem (by decide)
      · exact t.not_mem_rowLines row hrow hmem

/-- The lines without their carriage returns are the lines of the table without them. -/
theorem map_dropTrailing_lines :
    t.lines.map (Text.dropTrailing (· == '\r')) = t.dropReturns.lines := by
  have hhead : '\r' ∉ headline t.name := by
    intro h
    cases isLineBreak_of_mem_headline t.isDotted _ h
  have hopening (l : Text) : Text.dropTrailing (· == '\r') (opening t.name ++ ['{'] ++ l) =
      opening t.name ++ ['{'] ++ Text.dropTrailing (· == '\r') l := by
    refine Text.dropTrailing_append (fun c hc => ?_) l
    rw [List.getLast?_append_of_ne_nil _ (by simp)] at hc
    cases hc
    rfl
  have hrows : t.rows.map (Text.dropTrailing (· == '\r') ∘ Row.line) =
      t.dropReturns.rows.map Row.line := by
    rw [dropReturns, List.map_map]
    exact List.map_congr_left fun r _ => dropTrailing_line r
  rw [lines, List.map_cons, t.headEnd.dropTrailing_append hhead, tableLines,
    map_prependFirst hopening (by simp), List.map_append, List.map_map, hrows, List.map_singleton,
    dropTrailing_closing]
  rfl

/-- **The lines of a table's text** are those of the table without its carriage returns, and the
empty ones behind it. -/
theorem lines_text : Text.lines t.text = t.dropReturns.lines ++ List.replicate t.empty [] := by
  rw [text, Text.lines_ofLines t.not_mem_lines (by simp [lines]), t.map_dropTrailing_lines]

/-! ### The block of a table -/

theorem isMarkerLine_tableLines : ∀ line ∈ t.tableLines, isMarkerLine line = false := by
  have hrows : ∀ line ∈ t.rows.map Row.line ++ [t.last.closing], isMarkerLine line = false := by
    intro line hline
    rcases List.mem_append.1 hline with hline | hline
    · obtain ⟨r, -, rfl⟩ := List.mem_map.1 hline
      exact r.isMarkerLine_line
    · rw [List.mem_singleton.1 hline]
      exact t.last.isMarkerLine_closing
  intro line hline
  rcases mem_prependFirst (by simp) hline with hline | ⟨line, -, rfl⟩
  · exact hrows line hline
  · rw [List.append_assoc]
    exact isMarkerLine_opening t.isDotted _

theorem valuesFrom_pairs (first : Nat) (rows : List Row) :
    Declaration.valuesFrom first (rows.map Row.pairs) =
      (placedFrom first rows).map fun p => Declaration.valueAt p.1 p.2.pair := by
  induction rows generalizing first with
  | nil => rfl
  | cons r rows ih =>
    rw [List.map_cons, Declaration.valuesFrom, ih, placedFrom, List.map_append, Row.pairs,
      List.map_map, List.map_map]
    rfl

/-- **The block of a table** holds its entries in order, each on its line, and is closed. -/
theorem enumBlock_tableLines (rest : List Text) :
    Declaration.enumBlock false 1 (t.tableLines ++ rest) =
      ⟨t.placed.map fun p => Declaration.valueAt p.1 p.2.pair, .closed, t.rows.length + 1⟩ := by
  have hopening : '{' ∉ opening t.name := fun h => (of_mem_opening t.isDotted _ h).2 rfl
  have hrows : List.Forall₂ Declaration.Holds (t.rows.map Row.line) (t.rows.map Row.pairs) := by
    rw [List.forall₂_map_left_iff, List.forall₂_map_right_iff, List.forall₂_same]
    exact fun r _ => r.holds
  have hblock := Declaration.enumBlock_table hopening hrows t.last.ends t.isMarkerLine_tableLines 1
    rest
  rw [tableLines, hblock, placed, ← valuesFrom_pairs, List.length_map, List.map_append]
  rfl

/-- The lines of a table declare its enumeration and nothing else. -/
theorem ofLines_lines (empty : Nat) :
    Declaration.ofLines (t.lines ++ List.replicate empty []) =
      [.enumDecl 1 t.lastLine t.name (t.placed.map fun p => Declaration.valueAt p.1 p.2.pair)
        .closed] := by
  have hhead : ∀ c, t.headEnd.text.head? = some c → ¬ Name.IsDottedChar c := by
    intro c hc hdotted
    have hblank := t.headEnd.isBlank_of_head? hc
    rw [Name.isBlank_of_isDottedChar hdotted] at hblank
    cases hblank
  have hbelow : ∀ line ∈ t.tableLines ++ List.replicate empty [], isMarkerLine line = false := by
    intro line hline
    rcases List.mem_append.1 hline with hline | hline
    · exact t.isMarkerLine_tableLines line hline
    · rw [List.eq_of_mem_replicate hline]
      rfl
  have htaken : 1 + (t.rows.length + 1) = t.lastLine := by
    rw [lastLine]
    omega
  rw [lines, List.cons_append, ofLines_headline t.isDotted hhead hbelow, enumBlock_tableLines,
    htaken]

/-- Carriage returns at the ends of lines hold no entries. -/
theorem placed_dropReturns : t.dropReturns.placed = t.placed := by
  have hrows (first : Nat) (rows : List Row) :
      placedFrom first (rows.map Row.dropReturns) = placedFrom first rows := by
    induction rows generalizing first with
    | nil => rfl
    | cons r rows ih =>
      rw [List.map_cons, placedFrom, placedFrom, ih]
      rfl
  have happend : t.dropReturns.rows ++ [t.dropReturns.last] =
      (t.rows ++ [t.last]).map Row.dropReturns := by
    rw [List.map_append]
    rfl
  rw [placed, placed, happend, hrows]

/-- **The file that holds a table** declares its enumeration, with the entries in order and each on
its line, and nothing else. -/
theorem ofLines_text :
    Declaration.ofLines (Text.lines t.text) =
      [.enumDecl 1 t.lastLine t.name (t.placed.map fun p => Declaration.valueAt p.1 p.2.pair)
        .closed] := by
  -- what is read is the table without its carriage returns, which has the same entries and lines
  have hlast : t.dropReturns.lastLine = t.lastLine := by
    simp only [lastLine, dropReturns, List.length_map]
  rw [lines_text, ofLines_lines, placed_dropReturns, hlast]
  rfl

end EnumTable

end LuaAtlas
