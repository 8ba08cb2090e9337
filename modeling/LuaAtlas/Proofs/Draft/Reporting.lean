import LuaAtlas.Proofs.Catalog.Appending
import LuaAtlas.Proofs.Draft.Filling
import LuaAtlas.Proofs.Symbol.Facts

/-!
# What is reported of declarations

Most issues concern a type or a tag.  Three concern a whole declaration: a method or a function may
be refused (`Issue.isRefusal`), and a symbol may be in conflict with another of its name
(`Issue.isConflict`).

* `Draft.Mutes` says that a change reports no such issue and stores no method.  Reading is such a
  change (`mutes_readType`, `mutes_enterRoutine`), and so is the filling of a block.
* A method is refused or stored (`enterMethod_of_find?_eq_none`, `stores_enterMethod`), and a
  function is refused or declared (`enterFunction_of_find?_eq_some`, `mutes_enterFunction`).  A
  refusal is all that a refused declaration leaves behind.
-/

namespace LuaAtlas

/-! ### Kinds of issues -/

namespace Issue

/-- Whether an issue is that a declaration was refused. -/
def isRefusal : Issue → Bool
  | unknownOwner .. => true
  | duplicateFunction .. => true
  | _ => false

/-- Whether an issue is that a name was declared under two kinds. -/
def isConflict : Issue → Bool
  | kindConflict .. => true
  | _ => false

/-- Whether an issue concerns less than a whole declaration. -/
def isMinor (issue : Issue) : Bool := !issue.isRefusal && !issue.isConflict

end Issue

/-- Types have minor issues only. -/
theorem TypeExpr.isMinor_of_mem_read (v : Vocabulary) (t : Text) :
    ∀ issue ∈ (read v t).issues, issue.isMinor := by
  refine read_induction v (P := fun r => ∀ issue ∈ r.issues, issue.isMinor) ?_ t
  intro t f h
  have hall (readings : List Reading) (hr : ∀ r ∈ readings, ∀ issue ∈ r.issues, issue.isMinor) :
      ∀ issue ∈ Reading.allIssues readings, issue.isMinor := by
    intro issue hissue
    obtain ⟨r, hmem, hissue⟩ := List.mem_flatMap.1 hissue
    exact hr r hmem issue hissue
  have hone {i : Issue} (hi : i.isMinor) : ∀ issue ∈ [i], issue.isMinor := by
    simpa using hi
  cases f with
  | empty => exact hone rfl
  | enclosed inner => exact h inner (List.mem_singleton_self _)
  | function mentioned => exact hall mentioned h
  | unclosed => exact hone rfl
  | union alternatives => exact hall alternatives h
  | optional inner => exact h inner (List.mem_singleton_self _)
  | array inner => exact h inner (List.mem_singleton_self _)
  | generic head name arguments => exact hall arguments h
  | malformed head name => cases head <;> exact hone rfl
  | literal => exact nofun
  | dotted =>
    show ∀ issue ∈ (readName v t t).issues, _
    rw [issues_readName]
    exact nofun
  | unrecognized => exact hone rfl

namespace Draft

variable {v : Vocabulary} {d d' d'' : Draft} {file line owner : Nat}

/-- The refusals among the diagnostics. -/
def refusals (d : Draft) : List Diagnostic := d.diagnostics.filter (·.issue.isRefusal)

/-- The conflicts among the diagnostics. -/
def conflicts (d : Draft) : List Diagnostic := d.diagnostics.filter (·.issue.isConflict)

/-- **No declaration is refused or in conflict, and no method is stored.** -/
structure Mutes (d d' : Draft) : Prop where
  refusals_eq : d'.refusals = d.refusals
  conflicts_eq : d'.conflicts = d.conflicts
  methods_eq : d'.methods = d.methods

theorem Mutes.trans (h : Mutes d d') (h' : Mutes d' d'') : Mutes d d'' :=
  ⟨h'.refusals_eq.trans h.refusals_eq, h'.conflicts_eq.trans h.conflicts_eq,
    h'.methods_eq.trans h.methods_eq⟩

theorem Mutes.of_eq (hdiagnostics : d'.diagnostics = d.diagnostics)
    (hmethods : d'.methods = d.methods) : Mutes d d' := by
  refine ⟨?_, ?_, hmethods⟩
  · rw [refusals, hdiagnostics, ← refusals]
  · rw [conflicts, hdiagnostics, ← conflicts]

theorem Mutes.refl (d : Draft) : Mutes d d := .of_eq rfl rfl

theorem mutes_reportAll (d : Draft) {issues : List Issue} (h : ∀ issue ∈ issues, issue.isMinor)
    (file line : Nat) : Mutes d (d.reportAll issues file line) := by
  have hminor (issue : Issue) (hissue : issue ∈ issues) :
      issue.isRefusal = false ∧ issue.isConflict = false := by
    simpa [Issue.isMinor] using h issue hissue
  have hnone (p : Issue → Bool) (hp : ∀ issue ∈ issues, p issue = false) :
      (d.reportAll issues file line).diagnostics.filter (p ·.issue) =
        d.diagnostics.filter (p ·.issue) := by
    have hnew : (issues.map (⟨·, file, line⟩ : Issue → Diagnostic)).filter (p ·.issue) = [] := by
      refine List.filter_eq_nil_iff.2 fun x hx => ?_
      obtain ⟨issue, hissue, rfl⟩ := List.mem_map.1 hx
      exact Bool.eq_false_iff.1 (hp issue hissue)
    show (d.diagnostics ++ issues.map _).filter _ = _
    rw [List.filter_append, hnew, List.append_nil]
  exact ⟨hnone Issue.isRefusal fun issue hissue => (hminor issue hissue).1,
    hnone Issue.isConflict fun issue hissue => (hminor issue hissue).2, rfl⟩

theorem mutes_report (d : Draft) {issue : Issue} (h : issue.isMinor) (file line : Nat) :
    Mutes d (d.report issue file line) := by
  have hone : ∀ i ∈ [issue], i.isMinor := by simpa using h
  exact mutes_reportAll d hone file line

/-- A refusal is reported. -/
theorem reports_refusal (d : Draft) {issue : Issue} (h : issue.isRefusal) (file line : Nat) :
    (d.report issue file line).refusals = d.refusals ++ [⟨issue, file, line⟩] ∧
      (d.report issue file line).conflicts = d.conflicts := by
  cases issue <;> cases h
  all_goals exact ⟨List.filter_append .., (List.filter_append ..).trans (List.append_nil _)⟩

/-! ### Reading -/

theorem mutes_readType (v : Vocabulary) (d : Draft) (type : Text) (file line : Nat) :
    Mutes d (d.readType v type file line).1 := by
  let used : Draft :=
    { d with table := d.table.resolveAll (TypeExpr.read v (Text.trim type)).mentions file line }
  have hused : Mutes d used := .of_eq rfl rfl
  rw [readType_eq_read]
  exact hused.trans (mutes_reportAll used (TypeExpr.isMinor_of_mem_read v _) file line)

theorem mutes_enterNote (v : Vocabulary) (file owner : Nat) (d : Draft) (note : Note) :
    Mutes d (d.enterNote v file owner note).1 := by
  match note with
  | .param line name _ none => exact mutes_report d rfl file line
  | .param line name optional (some type) =>
    exact (mutes_readType v d type file line).trans (.of_eq rfl rfl)
  | .returns line [] => exact mutes_report d rfl file line
  | .returns _ (_ :: _) => exact .refl d
  | .doc _ => exact .refl d

theorem mutes_enterNotes (v : Vocabulary) (file owner : Nat) (d : Draft) (notes : List Note) :
    Mutes d (d.enterNotes v file owner notes).1 := by
  induction notes generalizing d with
  | nil => exact .refl d
  | cons note notes ih => exact (mutes_enterNote v file owner d note).trans (ih _)

theorem mutes_enterArguments (file owner line : Nat) (d : Draft) (names : List Text) :
    Mutes d (d.enterArguments file owner line names).1 := by
  induction names generalizing d with
  | nil => exact .refl d
  | cons name names ih =>
    have hone : Mutes d
        (d.addParameter owner name "any".toList (.primitive "any".toList) file line).1 :=
      .of_eq rfl rfl
    exact hone.trans (ih _)

theorem mutes_readTypes (v : Vocabulary) (file : Nat) (d : Draft) (types : List (Nat × Text)) :
    Mutes d (d.readTypes v file types).1 := by
  induction types generalizing d with
  | nil => exact .refl d
  | cons head types ih => exact (mutes_readType v d head.2 file head.1).trans (ih _)

/-- What is read of a function has minor issues only. -/
theorem mutes_enterRoutine (v : Vocabulary) (file owner : Nat) (d : Draft) (f : FunctionLine) :
    Mutes d (d.enterRoutine v file owner f).1 := by
  have htagged := mutes_enterNotes v file owner d f.notes
  unfold enterRoutine
  simp only
  split
  · exact htagged.trans (mutes_readTypes v file _ _)
  · exact (htagged.trans (mutes_enterArguments file owner f.line _ _)).trans
      (mutes_readTypes v file _ _)

/-! ### Blocks -/

theorem mutes_enterField (v : Vocabulary) (file owner : Nat) (ownerName : Text) (d : Draft)
    (f : FieldLine) : Mutes d (d.enterField v file owner ownerName f) := by
  unfold enterField
  split
  · exact mutes_report d rfl file f.line
  · rename_i type _
    exact (mutes_readType v d type file f.line).trans (.of_eq rfl rfl)

theorem mutes_enterOption (v : Vocabulary) (file owner : Nat) (d : Draft)
    (option : Nat × OptionText) : Mutes d (d.enterOption v file owner option) := by
  match option with
  | (_, .literal text) => exact .of_eq rfl rfl
  | (line, .type text) => exact (mutes_readType v d text file line).trans (.of_eq rfl rfl)

theorem mutes_foldl {α : Type} {enterPart : Draft → α → Draft}
    (hpart : ∀ d a, Mutes d (enterPart d a)) (d : Draft) (parts : List α) :
    Mutes d (parts.foldl enterPart d) := by
  induction parts generalizing d with
  | nil => exact .refl d
  | cons part parts ih => exact (hpart d part).trans (ih _)

theorem mutes_linkParent (d : Draft) (id parent : Nat) (name : Text) (file line : Nat) :
    Mutes d (d.linkParent id parent name file line) := by
  unfold linkParent
  split
  · exact mutes_report d rfl file line
  · exact .of_eq rfl rfl

theorem mutes_enterEnum (file : Nat) (d : Draft) (line lastLine : Nat) (name : Text)
    (values : List EnumValue) (ending : EnumEnd) :
    Mutes (d.declare .enumKind name file line).1
      (d.enterEnum file line lastLine name values ending) := by
  let declared := d.declare .enumKind name file line
  have hvalue (d : Draft) (e : EnumValue) : Mutes d (d.enterValue file declared.2 e) :=
    .of_eq rfl rfl
  have hvalues := mutes_foldl hvalue declared.1 values
  have hending : ∀ issue ∈ (endingIssue? name ending).toList, issue.isMinor := by
    cases ending <;> simp [endingIssue?, Issue.isMinor, Issue.isRefusal, Issue.isConflict]
  exact (hvalues.trans (mutes_reportAll _ hending file line)).trans (.of_eq rfl rfl)

theorem mutes_enterAliasLine (v : Vocabulary) (file : Nat) (d : Draft) (line : Nat)
    (name target : Text) :
    Mutes (d.declare .aliasKind name file line).1 (d.enterAliasLine v file line name target) := by
  unfold enterAliasLine
  simp only
  split
  · exact mutes_report _ rfl file line
  · exact mutes_enterOption v file _ _ _

theorem mutes_enterAliasBlock (v : Vocabulary) (file : Nat) (d : Draft) (line lastLine : Nat)
    (name : Text) (options : List (Nat × OptionText)) :
    Mutes (d.declare .aliasKind name file line).1
      (d.enterAliasBlock v file line lastLine name options) := by
  have hoptions := mutes_foldl
    (mutes_enterOption v file (d.declare .aliasKind name file line).2)
    (d.declare .aliasKind name file line).1 options
  unfold enterAliasBlock
  simp only
  split
  · exact (hoptions.trans (mutes_report _ rfl file line)).trans (.of_eq rfl rfl)
  · exact hoptions.trans (.of_eq rfl rfl)

/-! ### Methods -/

/-- A method without a class is refused, and nothing else happens. -/
theorem enterMethod_of_find?_eq_none {m : MethodLine}
    (h : d.table.find? m.owner .classKind = none) :
    d.enterMethod v file m = d.report (.unknownOwner m.owner m.separator m.name) file m.line := by
  unfold enterMethod classNamed?
  rw [h]
  rfl

/-- **A method is stored**: it comes last in the class with the given name and among all methods. -/
structure StoresMethod (file line : Nat) (owner name : Text) (m : Method) (d d' : Draft) :
    Prop where
  place_eq : m.file = file ∧ m.line = line
  name_eq : m.name = name
  methods_eq : d'.methods = d.methods ++ [m]
  appended : ∃ s s', d.table.find? owner .classKind = some s ∧
    d'.table.find? owner .classKind = some s' ∧ m.parent = s.id ∧ s'.id = s.id ∧
    s'.methods = s.methods ++ [m]

/-- The symbol that a method is stored in. -/
theorem exists_mem_storeMethod (h : d.table.WellFormed) {s : Symbol} (hs : s ∈ d.table.symbols)
    (hk : s.kind = .classKind) {m : Method} (hparent : m.parent = s.id) :
    ∃ s' ∈ (d.storeMethod m).table.symbols, s'.id = s.id ∧ s'.name = s.name ∧
      s'.kind = .classKind ∧ s'.methods = s.methods ++ [m] := by
  have hkeeps := (Symbol.spares_addMethod m).toKeeps
  have hmethods : (s.mapBody (·.addMethod m)).methods = s.methods ++ [m] := by
    cases s with | mk _ _ _ _ _ _ _ _ body =>
    cases body <;> cases hk
    rfl
  -- edges are recorded behind it, which leave the body alone
  refine (h.modify_of_keeps hkeeps m.parent).addEdges_induction (P := fun t => ∃ s' ∈ t.symbols,
    s'.id = s.id ∧ s'.name = s.name ∧ s'.kind = .classKind ∧ s'.methods = s.methods ++ [m])
    ?_ (fun {t} _ ht id edge => ?_) (Edge.ofRoutine .method m.id m.routine)
  · refine ⟨s.mapBody (·.addMethod m), SymbolTable.mem_symbols_modify.2 ⟨s, hs, ?_⟩, rfl, rfl,
      (hkeeps.kind s).trans hk, hmethods⟩
    rw [ite_cond_eq_true _ _ (eq_true hparent.symm)]
  · obtain ⟨s', hs', hid, hname, hkind, hlist⟩ := ht
    refine ⟨_, SymbolTable.mem_symbols_modify.2 ⟨s', hs', rfl⟩, ?_⟩
    split
    · refine ⟨(SymbolTable.id_addReference edge s').trans hid,
        (SymbolTable.name_addReference edge s').trans hname,
        (SymbolTable.kind_addReference edge s').trans hkind, ?_⟩
      rw [Symbol.methods, SymbolTable.body_addReference]
      exact hlist
    · exact ⟨hid, hname, hkind, hlist⟩

/-- **A method with a class is stored**, once, and reports minor issues only. -/
theorem stores_enterMethod (v : Vocabulary) (file : Nat) (h : d.table.WellFormed) {m : MethodLine}
    {s : Symbol} (hfind : d.table.find? m.owner .classKind = some s) :
    (d.enterMethod v file m).refusals = d.refusals ∧
      (d.enterMethod v file m).conflicts = d.conflicts ∧
      ∃ method, StoresMethod file m.line m.owner m.name method d (d.enterMethod v file m) := by
  obtain ⟨hs, hname, hk⟩ := SymbolTable.mem_of_find?_eq_some hfind
  let read := d.fresh.1.enterRoutine v file d.fresh.2 m.toFunctionLine
  let method : Method :=
    { id := d.fresh.2, parent := s.id, name := m.name, routine := read.2, file, line := m.line }
  have hread : Collects file d.fresh.2 read.2.params d.fresh.1 read.1 :=
    (collects_enterRoutine v file d.fresh.2 d.fresh.1 m.toFunctionLine).1
  have hw : read.1.table.WellFormed := hread.wellFormed h.fresh
  have hfresh : Mutes d d.fresh.1 := .of_eq rfl rfl
  have hmutes : Mutes d read.1 := hfresh.trans (mutes_enterRoutine v file _ _ _)
  have hstored : d.enterMethod v file m = read.1.storeMethod method := by
    unfold enterMethod classNamed?
    simp only [hfind, Option.map_some, enterMethodInto, trackRoutine_eq_addEdges]
    rfl
  have hfound : ∃ s', (read.1.storeMethod method).table.find? m.owner .classKind = some s' ∧
      s'.id = s.id ∧ s'.methods = s.methods ++ [method] := by
    obtain ⟨s', hs', hid, hn, hkind, hlist⟩ :=
      exists_mem_storeMethod hw (hread.symbols_subset hs) hk (m := method) rfl
    have hext : Extends ∅ read.1 (read.1.storeMethod method) := extends_storeMethod hw method
    exact ⟨s', hext.wellFormed.find?_eq_some_iff.2 ⟨hs', hn.trans hname, hkind⟩, hid, hlist⟩
  obtain ⟨s', hfind', hid, hlist⟩ := hfound
  rw [hstored]
  refine ⟨hmutes.refusals_eq, hmutes.conflicts_eq, method, ⟨rfl, rfl⟩, rfl, ?_,
    s, s', hfind, hfind', rfl, hid, hlist⟩
  show read.1.methods ++ [method] = _
  rw [hmutes.methods_eq]

/-! ### Functions -/

/-- **A function that was declared before is refused**, and nothing else happens. -/
theorem enterFunction_of_find?_eq_some (v : Vocabulary) (file : Nat) (h : d.table.WellFormed)
    (hfilled : d.table.Filled ∅) {name : Text} {s : Symbol}
    (hfind : d.table.find? name .functionKind = some s) (f : FunctionLine) :
    d.enterFunction v file name f =
      d.report (.duplicateFunction name s.file s.firstLine) file f.line := by
  obtain ⟨hs, -, hk⟩ := SymbolTable.mem_of_find?_eq_some hfind
  have hroutine : s.routine?.isSome := (hfilled s hs hk).resolve_left nofun
  have hdeclare : d.declare .functionKind name file f.line =
      (d.reportAll [] file f.line, s.id) := by
    unfold declare SymbolTable.declare
    rw [hfind]
    rfl
  have hget : (d.reportAll [] file f.line).table.get? s.id = some s :=
    h.get?_eq_some_iff.2 ⟨hs, rfl⟩
  unfold enterFunction
  simp only [hdeclare, hget, hroutine, ↓reduceIte]
  unfold report reportAll
  rw [List.map_nil, List.append_nil]

/-- **A function that was not declared before is declared**, and what is read of it has minor issues
only. -/
theorem mutes_enterFunction (v : Vocabulary) (file : Nat) (h : d.table.WellFormed) {name : Text}
    (hfind : d.table.find? name .functionKind = none) (f : FunctionLine) :
    Mutes (d.declare .functionKind name file f.line).1 (d.enterFunction v file name f) := by
  obtain ⟨u, hu, huid, huk, hun⟩ := h.owns_declare .functionKind nofun name file f.line
  have hget : (d.declare .functionKind name file f.line).1.table.get?
      (d.declare .functionKind name file f.line).2 = some u :=
    SymbolTable.WellFormed.get?_eq_some_iff h.declare |>.2 ⟨hu, huid⟩
  have hnone : u.routine?.isSome = false := by
    by_contra hsome
    rw [Bool.not_eq_false] at hsome
    -- a function with a routine would have been there before
    have hsame := declare_of_routine h name file f.line hget hsome
    have hold : u ∈ d.table.symbols := by
      have hmem : u ∈ (d.declare .functionKind name file f.line).1.table.symbols := hu
      rw [hsame] at hmem
      exact hmem
    exact SymbolTable.find?_eq_none_iff.1 hfind u hold hun huk
  unfold enterFunction
  simp only [hget, hnone, Bool.false_eq_true, ↓reduceIte]
  rw [trackRoutine_eq_addEdges]
  exact (mutes_enterRoutine v file _ _ f).trans (.of_eq rfl rfl)

end Draft

end LuaAtlas
