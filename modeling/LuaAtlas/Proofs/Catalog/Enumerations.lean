import LuaAtlas.Catalog.Basic
import LuaAtlas.Proofs.Declaration.Tables

/-!
# Catalogues of one enumeration

An enumeration that is entered into an empty draft gets the number 0, and its values get the numbers
behind it in the order in which they are entered (`enterEnum_empty`).  So the catalogue of a file
with one enumeration follows from what its lines declare (`ofTexts_enumDecl`).

Together with the lines of a table this gives what the table becomes, whatever its layout
(`ofTexts_enumTable`).
-/

namespace LuaAtlas

/-- The member that a value of an enumeration becomes. -/
def EnumValue.member (file owner id : Nat) (e : EnumValue) : Member where
  id
  kind := .enumValue
  parent := owner
  name := e.name
  rawType := Literal.typeOfValue e.value
  signature := .primitive (Literal.typeOfValue e.value)
  value := some e.value
  file
  line := e.line

/-- The members that values become, with the numbers from `first` on. -/
def EnumValue.membersFrom (file owner first : Nat) : List EnumValue → List Member
  | [] => []
  | e :: values => e.member file owner first :: membersFrom file owner (first + 1) values

/-- What a member of an enumeration says: its name, its value and its line. -/
def Member.entry (m : Member) : Text × Option Text × Nat := (m.name, m.value, m.line)

/-- The name and the value of a member. -/
def Member.pair (m : Member) : Text × Option Text := (m.name, m.value)

/-- Apart from its numbers, a member says what its value says. -/
theorem EnumValue.map_membersFrom {β : Type} {f : Member → β} {g : EnumValue → β} {file owner : Nat}
    (h : ∀ id e, f (e.member file owner id) = g e) (first : Nat) (values : List EnumValue) :
    (membersFrom file owner first values).map f = values.map g := by
  induction values generalizing first with
  | nil => rfl
  | cons e values ih => rw [membersFrom, List.map_cons, List.map_cons, h, ih]

namespace Draft

/-- The only symbol of a draft is an enumeration with the given values. -/
def ofEnum (s : Symbol) (values : List Member) (next : Nat) : Draft where
  table := { symbols := [{ s with body := .enumBody values }], nextId := next }

/-- A value is put behind those that the enumeration has. -/
theorem enterValue_ofEnum (file : Nat) (s : Symbol) (values : List Member) (next : Nat)
    (e : EnumValue) :
    (ofEnum s values next).enterValue file s.id e =
      ofEnum s (values ++ [e.member file s.id next]) (next + 1) := by
  simp only [enterValue, ofEnum, fresh, modify, SymbolTable.fresh, SymbolTable.modify,
    List.map_singleton, beq_self_eq_true, ↓reduceIte]
  rfl

theorem foldl_enterValue_ofEnum (file : Nat) (s : Symbol) (values : List Member) (next : Nat)
    (es : List EnumValue) :
    es.foldl (enterValue file s.id) (ofEnum s values next) =
      ofEnum s (values ++ EnumValue.membersFrom file s.id next es) (next + es.length) := by
  induction es generalizing values next with
  | nil => simp [EnumValue.membersFrom]
  | cons e es ih =>
    rw [List.foldl_cons, enterValue_ofEnum, ih, EnumValue.membersFrom, List.append_assoc,
      List.singleton_append, List.length_cons, Nat.add_right_comm, Nat.add_assoc]

/-- The symbol of an enumeration that is entered first. -/
def firstEnum (file line lastLine : Nat) (name : Text) (values : List EnumValue) : Symbol where
  id := 0
  name
  file
  firstLine := line
  lastLine
  body := .enumBody (EnumValue.membersFrom file 0 1 values)

/-- **An enumeration is entered into an empty draft.** -/
theorem enterEnum_empty (file line lastLine : Nat) (name : Text) (values : List EnumValue)
    (ending : EnumEnd) :
    ({} : Draft).enterEnum file line lastLine name values ending =
      { table := { symbols := [firstEnum file line lastLine name values],
                   nextId := 1 + values.length },
        diagnostics := (endingIssue? name ending).toList.map (⟨·, file, line⟩) } := by
  let s : Symbol :=
    { id := 0, name, file, firstLine := line, lastLine := line, body := .enumBody [] }
  have hdeclare : ({} : Draft).declare .enumKind name file line = (ofEnum s [] 1, 0) := rfl
  have hfilled : values.foldl (enterValue file 0) (ofEnum s [] 1) =
      ofEnum s (EnumValue.membersFrom file 0 1 values) (1 + values.length) :=
    foldl_enterValue_ofEnum file s [] 1 values
  rw [enterEnum, hdeclare]
  simp only [hfilled]
  simp [ofEnum, reportAll, setLastLine, modify, SymbolTable.modify, Symbol.isDeclaredAt, s,
    firstEnum]

end Draft

namespace Catalog

/-- **The catalogue of a file with one enumeration.** -/
theorem ofTexts_enumDecl (v : Vocabulary) {text name : Text} {line lastLine : Nat}
    {values : List EnumValue} {ending : EnumEnd}
    (h : Declaration.ofLines (Text.lines text) =
      [.enumDecl line lastLine name values ending]) :
    ofTexts v [text] =
      { symbols := [Draft.firstEnum 0 line lastLine name values], files := [Text.lines text],
        diagnostics := (Draft.endingIssue? name ending).toList.map (⟨·, 0, line⟩) } := by
  have hdraft : draftOf v [Text.lines text] =
      ({} : Draft).enterEnum 0 line lastLine name values ending := by
    show (Declaration.ofLines (Text.lines text)).foldl (Draft.enter v 0) {} = _
    rw [h]
    rfl
  rw [ofTexts, List.map_singleton, hdraft, Draft.enterEnum_empty]
  rfl

/-- What a file with one table says of its values, apart from their numbers and lines. -/
theorem ofTexts_valuesFrom (v : Vocabulary) {β : Type} {f : Member → β} {g : Text × Text → β}
    (hfg : ∀ id (e : EnumValue), f (e.member 0 0 id) = g (e.name, e.value)) {text name : Text}
    {lastLine : Nat} {pairss : List (List (Text × Text))}
    (h : Declaration.ofLines (Text.lines text) =
      [.enumDecl 1 lastLine name (Declaration.valuesFrom 2 pairss) .closed]) :
    ∃ s, (ofTexts v [text]).symbols = [s] ∧ s.name = name ∧ s.lastLine = lastLine ∧
      s.values.map f = pairss.flatten.map g := by
  rw [ofTexts_enumDecl v h]
  refine ⟨_, rfl, rfl, rfl, ?_⟩
  show (EnumValue.membersFrom 0 0 1 _).map f = _
  rw [EnumValue.map_membersFrom (g := fun e => g (e.name, e.value)) hfg,
    ← Declaration.map_valuesFrom 2 pairss, List.map_map]
  rfl

/-- **Tables are read the same in every layout.**  The file that holds a table becomes one
enumeration, which ends at the closing brace and has the entries of the table in order, each with
its trimmed value and on its own line; nothing is reported. -/
theorem ofTexts_enumTable (v : Vocabulary) (t : EnumTable) :
    ∃ s, (ofTexts v [t.text]).symbols = [s] ∧ s.kind = .enumKind ∧ s.name = t.name ∧
      s.firstLine = 1 ∧ s.lastLine = t.lastLine ∧
      s.values.map Member.entry =
        t.placed.map (fun p => (p.2.key.name, some (Text.trim p.2.value), p.1)) ∧
      (ofTexts v [t.text]).diagnostics = [] := by
  rw [ofTexts_enumDecl v t.ofLines_text]
  refine ⟨_, rfl, rfl, rfl, rfl, rfl, ?_, rfl⟩
  show (EnumValue.membersFrom 0 0 1 _).map Member.entry = _
  rw [EnumValue.map_membersFrom (g := fun e => (e.name, some e.value, e.line)) fun _ _ => rfl,
    List.map_map]
  rfl

/-- A table with one entry on the line of each brace. -/
def twoLineTable : EnumTable where
  name := "E".toList
  isDotted := by decide
  headEnd := ⟨[], none, by simp, by simp, by simp⟩
  rows := [{
    slots := [
      ⟨[' '], some ⟨.bare "A".toList (by decide), "1".toList⟩, by simp; decide,
        by rintro _ ⟨⟩; exact ⟨⟨'1', by simp, by decide⟩, by simp; decide, by decide⟩⟩,
      ⟨[], none, by simp, by simp⟩]
    ending := ⟨[' '], some " one".toList, by simp; decide, by simp, by rintro _ ⟨⟩; simp⟩ }]
  last := {
    slots := [
      ⟨[], some ⟨.quoted "b c".toList (by decide) (by simp; decide) (by decide), "- x".toList⟩,
        by simp, by rintro _ ⟨⟩; exact ⟨⟨'-', by simp, by decide⟩, by simp; decide, by decide⟩⟩]
    ending := ⟨[], none, by simp, by simp, by simp⟩ }
  empty := 1

/-- A comment stands on the first of two lines, and the second one has the closing brace. -/
theorem ofTexts_enumTable_two_lines :
    let c := ofTexts .standard
      ["---@enum E\nE = \x7b A = 1, -- one\n[\"b c\"] = - x\x7d\n".toList]
    ∃ s, c.symbols = [s] ∧ s.lastLine = 3 ∧
      s.values.map Member.entry =
        [("A".toList, some "1".toList, 2), ("b c".toList, some "- x".toList, 3)] ∧
      c.diagnostics = [] := by
  have htext : twoLineTable.text =
      "---@enum E\nE = \x7b A = 1, -- one\n[\"b c\"] = - x\x7d\n".toList := by decide
  obtain ⟨s, hsymbols, -, -, -, hlast, hvalues, hdiagnostics⟩ :=
    ofTexts_enumTable .standard twoLineTable
  rw [htext] at hsymbols hdiagnostics
  exact ⟨s, hsymbols, hlast, hvalues, hdiagnostics⟩

end Catalog

end LuaAtlas
