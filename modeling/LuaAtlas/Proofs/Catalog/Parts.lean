import LuaAtlas.Proofs.Catalog.ByName
import LuaAtlas.Proofs.Catalog.Links

/-!
# Files line by line

The declaration of a class is entered as a whole, with all that stands in its block.  To say what a
single line does, the declarations are taken apart: a class is opened, then the fields and methods
in its block are entered, and then it is closed (`Declaration.parts`).  A method is the same part
inside and outside of a block.  In a block it goes to the current class if it names it, and only
else looks for its class by name; but the current class is the one that its name leads to, from its
opening on (`foldl_enterPart_items`).

* `draftOf_eq_enterParts`: entering the parts of files one after the other gives their draft.
* `Mark.ofParts_ofFiles`: every marker line is one part, in order.
* `Draft.reaching` and `Draft.passing` are the drafts before and after a marker line is entered;
  `exists_part` finds the line between them.
-/

namespace LuaAtlas

/-- What is entered at one time. -/
inductive Part where
  /-- A class is opened, with its parent if it has one. -/
  | opening (line : Nat) (name : Text) (parent : Option Text)
  /-- A field in the block of a class. -/
  | field (owner : Text) (field : FieldLine)
  /-- A method, in a block or not. -/
  | method (method : MethodLine)
  /-- A class that was opened at `line` is closed. -/
  | closing (line lastLine : Nat) (owner : Text)
  | enumeration (line lastLine : Nat) (name : Text) (values : List EnumValue) (ending : EnumEnd)
  | aliasLine (line : Nat) (name target : Text)
  | aliasBlock (line lastLine : Nat) (name : Text) (options : List (Nat × OptionText))
  | function (name : Text) (function : FunctionLine)

/-- What stands in the block of a class, as a part. -/
def ClassItem.part (owner : Text) : ClassItem → Part
  | field f => .field owner f
  | method m => .method m

/-- **The parts of a declaration**, in order. -/
def Declaration.parts : Declaration → List Part
  | classDecl line lastLine name parent items =>
    .opening line name parent :: items.map (ClassItem.part name) ++ [.closing line lastLine name]
  | enumDecl line lastLine name values ending => [.enumeration line lastLine name values ending]
  | aliasLine line name target => [.aliasLine line name target]
  | aliasBlock line lastLine name options => [.aliasBlock line lastLine name options]
  | methodDecl m => [.method m]
  | functionDecl name f => [.function name f]

/-! ### Marker lines -/

namespace Part

/-- The number and the marker of the line that a part comes from.  A field and the end of a class
come from no marker line. -/
def dispatched? : Part → Option (Nat × Marker)
  | opening line name parent => some (line, .classDef name parent)
  | field .. => none
  | method m => some m.dispatched
  | closing .. => none
  | enumeration line _ name _ _ => some (line, .enumDef name)
  | aliasLine line name target => some (line, .aliasDef name (some target))
  | aliasBlock line _ name _ => some (line, .aliasDef name none)
  | function name f => some (f.line, .function name f.arguments)

/-- The marker line of a part of a file. -/
def mark? (file : Nat) (part : Part) : Option Mark :=
  part.dispatched?.map fun p => ⟨file, p.1, p.2⟩

/-- The parts of files, each with the index of its file. -/
def ofFiles (files : List (List Text)) : List (Nat × Part) :=
  (Declaration.ofFiles files).flatMap fun p => p.2.parts.map (p.1, ·)

/-- Whether a part of a file comes from the marker line with a number. -/
def isAt (file line : Nat) (p : Nat × Part) : Bool :=
  (p.2.mark? p.1).any fun m => m.file == file && m.line == line

end Part

/-- A declaration comes from the marker lines of its parts. -/
theorem Declaration.filterMap_parts (x : Declaration) :
    x.parts.filterMap Part.dispatched? = x.dispatched := by
  cases x with
  | classDecl line lastLine name parent items =>
    have hitems : (items.map (ClassItem.part name)).filterMap Part.dispatched? =
        items.flatMap ClassItem.dispatched := by
      induction items with
      | nil => rfl
      | cons item items ih =>
        rw [List.flatMap_cons, ← ih]
        cases item <;> rfl
    show (line, Marker.classDef name parent) ::
      (items.map (ClassItem.part name) ++ [Part.closing line lastLine name]).filterMap
        Part.dispatched? = _
    rw [List.filterMap_append, hitems]
    exact congrArg (List.cons _) (List.append_nil _)
  | _ => rfl

/-- The marker lines of parts. -/
def Mark.ofParts (parts : List (Nat × Part)) : List Mark := parts.filterMap fun p => p.2.mark? p.1

/-- **Every marker line of files is one of their parts**, in order. -/
theorem Mark.ofParts_ofFiles (files : List (List Text)) :
    ofParts (Part.ofFiles files) = ofFiles 0 files := by
  unfold ofParts Part.ofFiles
  rw [ofFiles_eq_flatMap, List.filterMap_flatMap]
  refine List.flatMap_congr fun p _ => ?_
  rw [List.filterMap_map, inFile, ← Declaration.filterMap_parts, List.map_filterMap]
  rfl

/-! ### Entering parts -/

namespace Draft

variable {v : Vocabulary} {d : Draft} {file line owner : Nat} {name : Text}

/-- A class is declared and linked to its parent, if it has one.  The second result is its
number. -/
def openClass (file : Nat) (d : Draft) (line : Nat) (name : Text) :
    Option Text → Draft × Nat
  | none => d.declare .classKind name file line
  | some parent =>
    let used := d.resolve parent file line
    let declared := used.1.declare .classKind name file line
    (declared.1.linkParent declared.2 used.2 name file line, declared.2)

/-- The class with a name is changed, if there is one. -/
def changeClass (d : Draft) (name : Text) (change : Nat → Draft) : Draft :=
  match d.table.find? name .classKind with
  | none => d
  | some s => change s.id

/-- **A part is entered.** -/
def enterPart (v : Vocabulary) (file : Nat) (d : Draft) : Part → Draft
  | .opening line name parent => (d.openClass file line name parent).1
  | .field owner f => d.changeClass owner fun id => d.enterField v file id owner f
  | .method m => d.enterMethod v file m
  | .closing line lastLine owner =>
    d.changeClass owner fun id => d.setLastLine id file line lastLine
  | .enumeration line lastLine name values ending =>
    d.enterEnum file line lastLine name values ending
  | .aliasLine line name target => d.enterAliasLine v file line name target
  | .aliasBlock line lastLine name options => d.enterAliasBlock v file line lastLine name options
  | .function name f => d.enterFunction v file name f

/-- Parts are entered one after the other, each into its own file. -/
def enterParts (v : Vocabulary) (d : Draft) (parts : List (Nat × Part)) : Draft :=
  parts.foldl (fun d p => d.enterPart v p.1 p.2) d

theorem changeClass_of_owns (h : d.table.WellFormed) (hown : d.table.Owns owner .classKind name)
    (change : Nat → Draft) : d.changeClass name change = change owner := by
  obtain ⟨s, hs, rfl, hk, hn⟩ := hown
  unfold changeClass
  rw [h.find?_eq_some_iff.2 ⟨hs, hn, hk⟩]

/-- What holds of a draft and of every change of a class holds if a class is changed or not. -/
theorem changeClass_cases {P : Draft → Prop} (change : Nat → Draft) (hnone : P d)
    (hsome : ∀ s ∈ d.table.symbols, s.kind = .classKind → P (change s.id)) :
    P (d.changeClass name change) := by
  unfold changeClass
  split
  · exact hnone
  · rename_i s hfind
    obtain ⟨hs, -, hk⟩ := SymbolTable.mem_of_find?_eq_some hfind
    exact hsome s hs hk

/-- A class is opened by steps, and then the number belongs to it. -/
theorem steps_openClass (h : d.table.WellFormed) (file line : Nat) (name : Text)
    (parent : Option Text) :
    Steps file d (d.openClass file line name parent).1 ∧
      (d.openClass file line name parent).1.table.Owns (d.openClass file line name parent).2
        .classKind name := by
  have hk : SymbolKind.classKind ≠ .unknown := by decide
  cases parent with
  | none =>
    exact ⟨(steps_declare h .classKind nofun nofun name file line).1,
      h.owns_declare .classKind hk name file line⟩
  | some parent =>
    have hread : Collects file 0 [] d (d.resolve parent file line).1 :=
      (Collects.refl d).resolve parent line
    have hused : (d.resolve parent file line).1.table.WellFormed := h.resolve
    obtain ⟨hdeclare, hw, -⟩ := steps_declare hused .classKind nofun nofun name file line
    have hlink := steps_linkParent
      ((d.resolve parent file line).1.declare .classKind name file line).1
      ((d.resolve parent file line).1.declare .classKind name file line).2
      (d.resolve parent file line).2 name file line
    exact ⟨(hread.steps.trans hdeclare).trans hlink,
      hlink.owns hw hk (hused.owns_declare .classKind hk name file line)⟩

/-- **What stands in the block of a class finds the class by its name**: the current class keeps
its number, name and kind while its block is entered, so the shortcut to it leads nowhere else. -/
theorem foldl_enterPart_items (h : d.table.WellFormed)
    (hown : d.table.Owns owner .classKind name) (items : List ClassItem) :
    (items.map (ClassItem.part name)).foldl (enterPart v file) d =
      items.foldl (enterItem v file owner name) d := by
  induction items generalizing d with
  | nil => rfl
  | cons item items ih =>
    have hone : d.enterPart v file (item.part name) = d.enterItem v file owner name item := by
      cases item with
      | field f => exact changeClass_of_owns h hown fun id => d.enterField v file id name f
      | method m => exact (enterBlockMethod_eq_enterMethod v file h hown m).symm
    have hsteps := steps_enterItem v file name h hown.holds item
    rw [List.map_cons, List.foldl_cons, List.foldl_cons, hone]
    exact ih (hsteps.wellFormed h) (hsteps.owns h nofun hown)

/-- **A declaration is entered part by part.** -/
theorem enter_eq_foldl_parts (v : Vocabulary) (file : Nat) (h : d.table.WellFormed)
    (x : Declaration) : d.enter v file x = x.parts.foldl (enterPart v file) d := by
  cases x with
  | classDecl line lastLine name parent items =>
    obtain ⟨hopen, hown⟩ := steps_openClass h file line name parent
    have hw := hopen.wellFormed h
    have hsteps : Steps file (d.openClass file line name parent).1
        (items.foldl (enterItem v file (d.openClass file line name parent).2 name)
          (d.openClass file line name parent).1) :=
      steps_foldl hw hown.holds nofun (fun h hold item => steps_enterItem v file name h hold item)
        items
    have hparts : (Declaration.classDecl line lastLine name parent items).parts.foldl
        (enterPart v file) d =
        enterPart v file ((items.map (ClassItem.part name)).foldl (enterPart v file)
          (d.openClass file line name parent).1) (.closing line lastLine name) :=
      List.foldl_append
    rw [hparts, foldl_enterPart_items hw hown, enterPart,
      changeClass_of_owns (hsteps.wellFormed hw) (hsteps.owns hw nofun hown)]
    cases parent <;> rfl
  | _ => rfl

theorem enterAll_eq_enterParts (v : Vocabulary) (h : d.table.WellFormed)
    (declarations : List (Nat × Declaration)) :
    d.enterAll v declarations =
      d.enterParts v (declarations.flatMap fun p => p.2.parts.map (p.1, ·)) := by
  induction declarations generalizing d with
  | nil => rfl
  | cons p declarations ih =>
    have hone := (steps_enter v p.1 h p.2).wellFormed h
    rw [List.flatMap_cons, enterParts, List.foldl_append, List.foldl_map, ← enterParts]
    show (d.enter v p.1 p.2).enterAll v declarations = _
    rw [ih hone, enter_eq_foldl_parts v p.1 h]

end Draft

/-- **The draft of files is made part by part.** -/
theorem Catalog.draftOf_eq_enterParts (v : Vocabulary) (files : List (List Text)) :
    draftOf v files = Draft.enterParts v {} (Part.ofFiles files) := by
  rw [draftOf_eq_enterAll, Draft.enterAll_eq_enterParts v SymbolTable.wellFormed_empty]
  rfl

/-! ### Single lines -/

namespace Draft

/-- **The draft of files when a marker line is reached.** -/
def reaching (v : Vocabulary) (files : List (List Text)) (file line : Nat) : Draft :=
  enterParts v {} ((Part.ofFiles files).takeWhile (!Part.isAt file line ·))

/-- **The draft of files when a marker line was entered.** -/
def passing (v : Vocabulary) (files : List (List Text)) (file line : Nat) : Draft :=
  enterParts v (reaching v files file line)
    (((Part.ofFiles files).dropWhile (!Part.isAt file line ·)).take 1)

/-- A marker line is one part, with the parts before and behind it. -/
theorem exists_part (v : Vocabulary) {files : List (List Text)} {file line : Nat} {marker : Marker}
    (hm : HasMarker files file line marker) :
    ∃ done part rest, Part.ofFiles files = done ++ (file, part) :: rest ∧
      part.dispatched? = some (line, marker) ∧ reaching v files file line = enterParts v {} done ∧
      passing v files file line = (enterParts v {} done).enterPart v file part := by
  have hsplit := (Part.ofFiles files).takeWhile_append_dropWhile (p := (!Part.isAt file line ·))
  have hmark {p : Nat × Part} {m : Mark} (hp : p ∈ Part.ofFiles files)
      (h : p.2.mark? p.1 = some m) : HasMarker files m.file m.line m.marker := by
    rw [← Mark.mem_ofFiles_zero, ← Mark.ofParts_ofFiles]
    exact List.mem_filterMap.2 ⟨p, hp, h⟩
  unfold passing reaching
  cases hrest : (Part.ofFiles files).dropWhile (!Part.isAt file line ·) with
  | nil =>
    -- the marker line is a part, so some part comes from it
    rw [List.dropWhile_eq_nil_iff] at hrest
    have hmem := Mark.mem_ofFiles_zero (m := ⟨file, line, marker⟩).2 hm
    rw [← Mark.ofParts_ofFiles] at hmem
    obtain ⟨p, hp, h⟩ := List.mem_filterMap.1 hmem
    have hnot := hrest p hp
    rw [Part.isAt, h] at hnot
    simp at hnot
  | cons p rest =>
    have hp : p ∈ Part.ofFiles files := by
      rw [← hsplit, hrest]
      exact List.mem_append_right _ (List.mem_cons_self ..)
    have hat : Part.isAt file line p := by
      have hnot := List.dropWhile_get_zero_not (p := (!Part.isAt file line ·))
        (Part.ofFiles files) (by rw [hrest]; exact Nat.succ_pos _)
      simpa [hrest] using hnot
    obtain ⟨i, part⟩ := p
    cases hd : part.dispatched? with
    | none =>
      rw [Part.isAt, Part.mark?, hd] at hat
      cases hat
    | some q =>
      have hpart : part.mark? i = some ⟨i, q.1, q.2⟩ := by
        rw [Part.mark?, hd]
        rfl
      rw [Part.isAt, hpart] at hat
      obtain ⟨rfl, rfl⟩ : i = file ∧ q.1 = line := by simpa using hat
      refine ⟨_, part, rest, (hrest ▸ hsplit).symm, ?_, rfl, rfl⟩
      have hmarker : q.2 = marker := (hmark hp hpart).marker_eq hm
      rw [hd, ← hmarker]

end Draft

end LuaAtlas
