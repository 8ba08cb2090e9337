import LuaAtlas.Proofs.Catalog.Accounted

/-!
# What becomes of every declaration

`Catalog.ofTexts_accounted` says what each method line and each function line of a list of texts
leads to, by the marker lines in front of it, and how many conflicts there are.  A line is looked at
in two ways: by the drafts before and after it is entered (`Draft.reaching`, `Draft.passing`), and
by what stands at its place in the finished catalogue (`Catalog.methodsAt`,
`Catalog.diagnosticsAt`).
-/

namespace LuaAtlas

/-- A line in front of the given one declares a name under a kind. -/
def DeclaredBefore (files : List (List Text)) (file line : Nat) (kind : SymbolKind) (name : Text) :
    Prop :=
  ∃ i n marker, HasMarker files i n marker ∧ marker.declared? = some (kind, name) ∧
    (i < file ∨ i = file ∧ n < line)

/-- It does so if it is one of the marker lines that come earlier. -/
theorem declaredBefore_iff {files : List (List Text)} {earlier later : List Mark} {m : Mark}
    (h : Mark.ofFiles 0 files = earlier ++ m :: later) (kind : SymbolKind) (name : Text) :
    DeclaredBefore files m.file m.line kind name ↔
      earlier.any (Mark.declares kind name) = true := by
  have hsorted := Mark.pairwise_ofFiles 0 files
  rw [h] at hsorted
  obtain ⟨-, hlater, hearlier⟩ := List.pairwise_append.1 hsorted
  rw [List.any_eq_true]
  constructor
  · rintro ⟨i, n, marker, hmarker, hdeclared, hbefore⟩
    have hmem : (⟨i, n, marker⟩ : Mark) ∈ earlier ++ m :: later :=
      h ▸ Mark.mem_ofFiles_zero.2 hmarker
    refine ⟨⟨i, n, marker⟩, ?_, by simp [Mark.declares, hdeclared]⟩
    rcases List.mem_append.1 hmem with hmem | hmem
    · exact hmem
    -- the line itself and those behind it do not come earlier
    · have hnot : m = ⟨i, n, marker⟩ ∨ m.Before ⟨i, n, marker⟩ := by
        rcases List.mem_cons.1 hmem with he | hmem
        · exact Or.inl he.symm
        · exact Or.inr ((List.pairwise_cons.1 hlater).1 _ hmem)
      rcases hnot with rfl | hafter | hafter
      · simp at hbefore
      · simp only at hafter
        omega
      · simp only at hafter
        omega
  · rintro ⟨m', hm', hdeclares⟩
    have hmem : m' ∈ Mark.ofFiles 0 files := h ▸ List.mem_append_left _ hm'
    exact ⟨m'.file, m'.line, m'.marker, Mark.mem_ofFiles_zero.1 hmem, beq_iff_eq.1 hdeclares,
      hearlier m' hm' m (List.mem_cons_self ..)⟩

namespace Issue

/-- The codes of refusals. -/
theorem isRefusal_of_code {issue : Issue}
    (h : issue.code = "unknown-owner" ∨ issue.code = "duplicate-declaration") :
    issue.isRefusal = true := by
  cases issue <;> simp [code] at h <;> rfl

/-- The code of conflicts. -/
theorem isConflict_eq (issue : Issue) : issue.isConflict = (issue.code == "kind-conflict") := by
  cases issue <;> simp [code, isConflict]

end Issue

/-- A part that comes from the line of a method is that method. -/
theorem Part.exists_method {part : Part} {line : Nat} {owner : Text} {separator : Char}
    {name arguments : Text}
    (h : part.dispatched? = some (line, .method owner separator name arguments)) :
    ∃ m : MethodLine, part = .method m ∧ m.line = line ∧ m.owner = owner ∧
      m.separator = separator ∧ m.name = name := by
  cases part <;> cases h
  exact ⟨_, rfl, rfl, rfl, rfl, rfl⟩

/-- A part that comes from the line of a function is that function. -/
theorem Part.exists_function {part : Part} {line : Nat} {name arguments : Text}
    (h : part.dispatched? = some (line, .function name arguments)) :
    ∃ f : FunctionLine, part = .function name f ∧ f.line = line := by
  cases part <;> cases h
  exact ⟨_, rfl, rfl⟩

namespace Catalog

variable {v : Vocabulary} {files : List (List Text)} {file line : Nat} {earlier later : List Mark}
  {m : Mark}

/-- The methods that come from a line. -/
def methodsAt (c : Catalog) (file line : Nat) : List Method :=
  c.methods.filter (·.place == (file, line))

/-- The diagnostics of a line that have a code. -/
def diagnosticsAt (c : Catalog) (code : String) (file line : Nat) : List Diagnostic :=
  c.diagnostics.filter fun x => x.issue.code == code && x.place == (file, line)

/-! ### Single lines -/

theorem accounted_draftOf (v : Vocabulary) (files : List (List Text)) :
    Draft.Accounted (Mark.ofFiles 0 files) (draftOf v files) := by
  have hall := Draft.accounted_empty.enterParts v (Part.ofFiles files)
  rw [Mark.ofParts_ofFiles, List.nil_append, ← draftOf_eq_enterParts] at hall
  exact hall

/-- A part is reached when the marker lines in front of it are accounted for, and the draft is only
extended from there on. -/
theorem accounted_done (v : Vocabulary) {done rest : List (Nat × Part)} {part : Part}
    (hparts : Part.ofFiles files = done ++ (file, part) :: rest) :
    Draft.Accounted (Mark.ofParts done) (Draft.enterParts v {} done) ∧
      Draft.Extends Set.univ ((Draft.enterParts v {} done).enterPart v file part)
        (draftOf v files) := by
  have hdone := Draft.accounted_empty.enterParts v done
  rw [List.nil_append] at hdone
  have hdraft : draftOf v files =
      ((Draft.enterParts v {} done).enterPart v file part).enterParts v rest := by
    rw [draftOf_eq_enterParts, hparts, Draft.enterParts, List.foldl_append]
    rfl
  refine ⟨hdone, ?_⟩
  rw [hdraft]
  exact Draft.extends_enterParts v (hdone.enterPart v file part).wellFormed rest

/-- The marker line of a part stands between those of the parts around it. -/
theorem marks_eq_append {done rest : List (Nat × Part)} {part : Part} {marker : Marker}
    (hparts : Part.ofFiles files = done ++ (file, part) :: rest)
    (hdispatched : part.dispatched? = some (line, marker)) :
    Mark.ofFiles 0 files = Mark.ofParts done ++ ⟨file, line, marker⟩ :: Mark.ofParts rest := by
  rw [← Mark.ofParts_ofFiles, hparts]
  unfold Mark.ofParts
  rw [List.filterMap_append, List.filterMap_cons_some (b := ⟨file, line, marker⟩)]
  rw [Part.mark?, hdispatched]
  rfl

/-- **Every marker line is passed once**: it is reached when the lines in front of it are accounted
for, and the draft is only extended from there on. -/
theorem exists_passage (v : Vocabulary) {marker : Marker} (hm : HasMarker files file line marker) :
    ∃ earlier later part, Mark.ofFiles 0 files = earlier ++ ⟨file, line, marker⟩ :: later ∧
      part.dispatched? = some (line, marker) ∧
      Draft.Accounted earlier (Draft.reaching v files file line) ∧
      Draft.passing v files file line =
        (Draft.reaching v files file line).enterPart v file part ∧
      Draft.Extends Set.univ (Draft.passing v files file line) (draftOf v files) := by
  obtain ⟨done, part, rest, hparts, hdispatched, hreaching, hpassing⟩ := Draft.exists_part v hm
  obtain ⟨hdone, hext⟩ := accounted_done v hparts
  refine ⟨Mark.ofParts done, Mark.ofParts rest, part, marks_eq_append hparts hdispatched,
    hdispatched, ?_, ?_, ?_⟩
  · rw [hreaching]
    exact hdone
  · rw [hpassing, hreaching]
  · rw [hpassing]
    exact hext

section Places

variable (hmarks : Mark.ofFiles 0 files = earlier ++ m :: later)
include hmarks

/-- The refusals at a line are those that it leads to. -/
theorem diagnosticsAt_eq (v : Vocabulary) {code : String}
    (hcode : code = "unknown-owner" ∨ code = "duplicate-declaration") :
    (ofDraft (draftOf v files) files).diagnosticsAt code m.file m.line =
      (Mark.refusal? earlier m).toList.filter (·.issue.code == code) := by
  have hsorted := Mark.pairwise_ofFiles 0 files
  have hrefusals := (accounted_draftOf v files).refusals_eq
  rw [hmarks] at hsorted hrefusals
  rw [← Mark.filter_collect (f := Mark.refusal?) (fun _ _ _ => Mark.place_refusal?) hsorted,
    ← hrefusals, Draft.refusals, List.filter_filter, List.filter_filter]
  refine List.filter_congr fun x _ => ?_
  -- the code alone makes it a refusal
  cases hx : x.issue.code == code with
  | false => rfl
  | true =>
    have hrefusal : x.issue.isRefusal = true := by
      refine Issue.isRefusal_of_code ?_
      rw [beq_iff_eq.1 hx]
      exact hcode
    rw [hrefusal, Bool.and_true]
    rfl

/-- The methods at a line are those that it leads to. -/
theorem map_place_methodsAt (v : Vocabulary) :
    ((ofDraft (draftOf v files) files).methodsAt m.file m.line).map Method.place =
      (Mark.stored? earlier m).toList := by
  have hsorted := Mark.pairwise_ofFiles 0 files
  have hmethods := (accounted_draftOf v files).methods_eq
  rw [hmarks] at hsorted hmethods
  rw [← Mark.filter_collect (f := Mark.stored?) (fun _ _ _ => Mark.place_stored?) hsorted,
    ← hmethods, List.filter_map]
  rfl

end Places

/-! ### Methods -/

/-- A class that holds the one method of a line holds it once. -/
theorem filter_methods_eq {method : Method} {s : Symbol}
    (h : (ofDraft (draftOf v files) files).methodsAt file line = [method])
    (hs : s ∈ (draftOf v files).table.symbols) (hmem : method ∈ s.methods) :
    s.methods.filter (·.place == (file, line)) = [method] := by
  -- the methods of all classes together are those of the catalogue, each as often
  have hperm := (Draft.balanced_draftOf v files).perm_methods.filter (·.place == (file, line))
  have hall : (draftOf v files).methods.filter (·.place == (file, line)) = [method] := h
  rw [hall, List.singleton_perm] at hperm
  have hsub : s.methods.Sublist ((draftOf v files).table.symbols.flatMap (·.methods)) := by
    rw [List.flatMap_def]
    exact List.sublist_flatten_of_mem (List.mem_map_of_mem hs)
  have hone := hsub.filter (·.place == (file, line))
  rw [← hperm, List.sublist_singleton] at hone
  refine hone.resolve_left fun hnil => ?_
  have hplace : method.place = (file, line) := by
    have hfirst : method ∈ (draftOf v files).methods.filter (·.place == (file, line)) := by
      rw [hall]
      exact List.mem_singleton_self _
    exact beq_iff_eq.1 (List.mem_filter.1 hfirst).2
  exact List.filter_eq_nil_iff.1 hnil method hmem (beq_iff_eq.2 hplace)

section Lines

variable {owner name arguments : Text} {separator : Char}

/-- **A method whose class was declared before is stored**, once and in that class. -/
theorem method_stored (v : Vocabulary)
    (hm : HasMarker files file line (.method owner separator name arguments))
    (hbefore : DeclaredBefore files file line .classKind owner) :
    ∃ m s, (ofDraft (draftOf v files) files).methodsAt file line = [m] ∧
      s ∈ (ofDraft (draftOf v files) files).classes ∧ s.name = owner ∧ m.parent = s.id ∧
      s.methods.filter (·.place == (file, line)) = [m] ∧
      (ofDraft (draftOf v files) files).diagnosticsAt "unknown-owner" file line = [] ∧
      Draft.StoresMethod file line owner name m (Draft.reaching v files file line)
        (Draft.passing v files file line) := by
  obtain ⟨earlier, later, part, hmarks, hpart, haccounted, hpassing, hext⟩ := exists_passage v hm
  obtain ⟨f, rfl, rfl, rfl, rfl, rfl⟩ := Part.exists_method hpart
  have hany := (declaredBefore_iff hmarks .classKind f.owner).1 hbefore
  have hfind := haccounted.any_declares .classKind nofun f.owner
  rw [hany, eq_comm, Option.isSome_iff_exists] at hfind
  obtain ⟨s, hfind⟩ := hfind
  obtain ⟨-, -, m, hstores⟩ := Draft.stores_enterMethod v file haccounted.wellFormed hfind
  rw [Draft.enterPart] at hpassing
  rw [← hpassing] at hstores
  have hmethods : (ofDraft (draftOf v files) files).methodsAt file f.line = [m] := by
    have hplaces := map_place_methodsAt hmarks v
    simp only [Mark.stored?, hany, ↓reduceIte, Option.toList_some] at hplaces
    -- one method comes from this line, and the new one does
    obtain ⟨m', hm', -⟩ := List.map_eq_singleton_iff.1 hplaces
    have hmem : m ∈ (draftOf v files).methods := by
      refine hext.methods.subset ?_
      rw [hstores.methods_eq]
      exact List.mem_append_right _ (List.mem_singleton_self m)
    have hat : m ∈ (ofDraft (draftOf v files) files).methodsAt file f.line :=
      List.mem_filter.2 ⟨hmem, by simp [Method.place, hstores.place_eq]⟩
    rw [hm', List.mem_singleton] at hat
    rw [hm', hat]
  -- the class is still there in the end, with the method in it
  obtain ⟨s₀, s₁, -, hfind₁, hparent, hid, hlist⟩ := hstores.appended
  obtain ⟨hs₁, hname, hk⟩ := SymbolTable.mem_of_find?_eq_some hfind₁
  obtain ⟨s₂, hs₂, hlast⟩ := hext.table.exists_mem hs₁
  have hk₁ : s₁.kind ≠ .unknown := by
    rw [hk]
    decide
  have hclass : s₂ ∈ (ofDraft (draftOf v files) files).classes :=
    List.mem_filter.2 ⟨hs₂, beq_iff_eq.2 ((hlast.kind hk₁).trans hk)⟩
  have hmem : m ∈ s₂.methods := by
    refine hlast.methods.subset ?_
    rw [hlist]
    exact List.mem_append_right _ (List.mem_singleton_self m)
  refine ⟨m, s₂, hmethods, hclass, hlast.name.trans hname,
    hparent.trans (hid.symm.trans hlast.id.symm), filter_methods_eq hmethods hs₂ hmem, ?_, hstores⟩
  rw [diagnosticsAt_eq hmarks v (Or.inl rfl)]
  simp only [Mark.refusal?, hany, ↓reduceIte, Option.toList_none, List.filter_nil]

/-- **A method whose class was not declared before is refused**, and nothing else happens. -/
theorem method_refused (v : Vocabulary)
    (hm : HasMarker files file line (.method owner separator name arguments))
    (hbefore : ¬DeclaredBefore files file line .classKind owner) :
    (ofDraft (draftOf v files) files).methodsAt file line = [] ∧
      (ofDraft (draftOf v files) files).diagnosticsAt "unknown-owner" file line =
        [⟨.unknownOwner owner separator name, file, line⟩] ∧
      Draft.passing v files file line =
        (Draft.reaching v files file line).report (.unknownOwner owner separator name) file
          line := by
  obtain ⟨earlier, later, part, hmarks, hpart, haccounted, hpassing, -⟩ := exists_passage v hm
  obtain ⟨f, rfl, rfl, rfl, rfl, rfl⟩ := Part.exists_method hpart
  have hany := Bool.eq_false_iff.2 (mt (declaredBefore_iff hmarks .classKind f.owner).2 hbefore)
  have hfind := haccounted.any_declares .classKind nofun f.owner
  rw [hany, eq_comm, Option.isSome_eq_false_iff, Option.isNone_iff_eq_none] at hfind
  refine ⟨?_, ?_, ?_⟩
  · have hplaces := map_place_methodsAt hmarks v
    simp only [Mark.stored?, hany, Bool.false_eq_true, ↓reduceIte, Option.toList_none] at hplaces
    exact List.map_eq_nil_iff.1 hplaces
  · rw [diagnosticsAt_eq hmarks v (Or.inl rfl)]
    simp [Mark.refusal?, hany, Issue.code]
  · rw [hpassing, Draft.enterPart, Draft.enterMethod_of_find?_eq_none hfind]

/-! ### Functions -/

/-- The one function of a name stands where it was declared first. -/
theorem exists_function {first : Mark}
    (h : (Mark.ofFiles 0 files).find? (Mark.declares .functionKind name) = some first) :
    ∃ s, (ofDraft (draftOf v files) files).functions.filter (·.name == name) = [s] ∧
      s.routine?.isSome ∧ (s.file, s.firstLine) = first.place := by
  have haccounted := accounted_draftOf v files
  have hplace := haccounted.find?_map .functionKind nofun name
  rw [h, Option.map_some, Option.map_eq_some_iff] at hplace
  obtain ⟨s, hfind, hs⟩ := hplace
  obtain ⟨hmem, hname, hk⟩ := SymbolTable.mem_of_find?_eq_some hfind
  refine ⟨s, ?_, (haccounted.filled s hmem hk).resolve_left nofun, hs⟩
  -- no other symbol has this name and kind
  have hnodup := haccounted.wellFormed.nodup_symbols
  rw [← List.perm_singleton]
  refine (List.perm_ext_iff_of_nodup ((hnodup.filter _).filter _) (List.nodup_singleton s)).2 ?_
  intro u
  rw [List.mem_filter, List.mem_filter, List.mem_singleton, beq_iff_eq, beq_iff_eq]
  constructor
  · rintro ⟨⟨hu, huk⟩, hun⟩
    exact haccounted.wellFormed.unique u hu s hmem (hun.trans hname.symm) (huk.trans hk.symm)
  · rintro rfl
    exact ⟨⟨hmem, hk⟩, hname⟩

/-- **The first declaration of a function counts, and every other is refused.** -/
theorem function_accounted (v : Vocabulary)
    (hm : HasMarker files file line (.function name arguments)) :
    ∃ s, (ofDraft (draftOf v files) files).functions.filter (·.name == name) = [s] ∧
      s.routine?.isSome ∧
      (¬DeclaredBefore files file line .functionKind name → s.file = file ∧ s.firstLine = line ∧
        (ofDraft (draftOf v files) files).diagnosticsAt "duplicate-declaration" file line = []) ∧
      (DeclaredBefore files file line .functionKind name →
        (ofDraft (draftOf v files) files).diagnosticsAt "duplicate-declaration" file line =
          [⟨.duplicateFunction name s.file s.firstLine, file, line⟩] ∧
        Draft.passing v files file line = (Draft.reaching v files file line).report
          (.duplicateFunction name s.file s.firstLine) file line) := by
  obtain ⟨earlier, later, part, hmarks, hpart, haccounted, hpassing, -⟩ := exists_passage v hm
  obtain ⟨f, rfl, rfl⟩ := Part.exists_function hpart
  have hbefore := declaredBefore_iff hmarks .functionKind name
  have hcode : "duplicate-declaration" = "unknown-owner" ∨
      "duplicate-declaration" = "duplicate-declaration" := Or.inr rfl
  have hdiagnostics := diagnosticsAt_eq hmarks v hcode
  have hplace := haccounted.find?_map .functionKind nofun name
  cases hfirst : earlier.find? (Mark.declares .functionKind name) with
  | none =>
    have hown : Mark.declares .functionKind name ⟨file, f.line, .function name arguments⟩ := by
      simp [Mark.declares, Marker.declared?]
    have hfind : (Mark.ofFiles 0 files).find? (Mark.declares .functionKind name) =
        some ⟨file, f.line, .function name arguments⟩ := by
      rw [hmarks, List.find?_append, hfirst, Option.none_or, List.find?_cons_of_pos hown]
    have hnot : ¬DeclaredBefore files file f.line .functionKind name := by
      rw [hbefore, List.any_eq_true]
      rintro ⟨m, hmem, hd⟩
      exact List.find?_eq_none.1 hfirst m hmem hd
    obtain ⟨s, hs, hroutine, hat⟩ := exists_function (v := v) hfind
    obtain ⟨hfile, hline⟩ := Prod.mk.inj hat
    refine ⟨s, hs, hroutine, fun _ => ⟨hfile, hline, ?_⟩, fun h => absurd h hnot⟩
    rw [hdiagnostics]
    simp only [Mark.refusal?, hfirst, Option.map_none, Option.toList_none, List.filter_nil]
  | some first =>
    have hfind : (Mark.ofFiles 0 files).find? (Mark.declares .functionKind name) = some first := by
      rw [hmarks, List.find?_append, hfirst, Option.some_or]
    have hyes : DeclaredBefore files file f.line .functionKind name := by
      rw [hbefore, List.any_eq_true]
      exact ⟨first, List.mem_of_find?_eq_some hfirst, List.find?_some hfirst⟩
    obtain ⟨s, hs, hroutine, hat⟩ := exists_function (v := v) hfind
    obtain ⟨hfile, hline⟩ := Prod.mk.inj hat
    -- the function was found at the same place when the line was reached
    rw [hfirst, Option.map_some, ← hat, Option.map_eq_some_iff] at hplace
    obtain ⟨s₀, hfind₀, hat₀⟩ := hplace
    obtain ⟨hfile₀, hline₀⟩ := Prod.mk.inj hat₀
    refine ⟨s, hs, hroutine, fun h => absurd hyes h, fun _ => ⟨?_, ?_⟩⟩
    · rw [hdiagnostics, hfile, hline]
      simp [Mark.refusal?, hfirst, Issue.code]
    · rw [hpassing, Draft.enterPart, Draft.enterFunction_of_find?_eq_some v file
        haccounted.wellFormed haccounted.filled hfind₀, hfile₀, hline₀]

end Lines

/-! ### Conflicts -/

/-- **Conflicts make up for the names that are declared more than once.** -/
theorem length_conflicts (v : Vocabulary) (files : List (List Text)) :
    ((ofDraft (draftOf v files) files).diagnostics.filter
        (·.issue.code == "kind-conflict")).length +
      ((ofDraft (draftOf v files) files).declared.map (·.name)).toFinset.card =
        (ofDraft (draftOf v files) files).declared.length := by
  have htallied := (accounted_draftOf v files).tallied
  have hperm := (perm_declared (ofDraft (draftOf v files) files)).map (·.name)
  have hnames : (draftOf v files).table.declaredNames =
      ((ofDraft (draftOf v files) files).symbols.filter (·.kind != .unknown)).map (·.name) :=
    SymbolTable.declaredNames_eq _
  rw [← hnames] at hperm
  unfold Draft.Tallied Draft.conflicts at htallied
  simp only [Issue.isConflict_eq] at htallied
  rw [← hperm.length_eq, ← List.toFinset_eq_of_perm _ _ hperm, List.length_map] at htallied
  exact htallied

/-- **Every declaration is accounted for.**  The catalogue is made line by line.  A method line adds
one method, the last of its class, if the class was declared before; else it adds a diagnostic and
nothing else.  The first line of a function gives the one function of its name; every other adds a
diagnostic and nothing else.  There are as many conflicts as there are declared symbols beyond the
first of each name. -/
theorem ofTexts_accounted (v : Vocabulary) (texts : List Text) :
    let c := ofTexts v texts
    let files := texts.map Text.lines
    let before := Draft.reaching v files
    let after := Draft.passing v files
    c = ofDraft (Draft.enterParts v {} (Part.ofFiles files)) files ∧
      (∀ file line owner separator name arguments,
        HasMarker files file line (.method owner separator name arguments) →
        (DeclaredBefore files file line .classKind owner →
          ∃ m s, c.methodsAt file line = [m] ∧ s ∈ c.classes ∧ s.name = owner ∧
            m.parent = s.id ∧ s.methods.filter (·.place == (file, line)) = [m] ∧
            c.diagnosticsAt "unknown-owner" file line = [] ∧
            Draft.StoresMethod file line owner name m (before file line) (after file line)) ∧
        (¬DeclaredBefore files file line .classKind owner →
          c.methodsAt file line = [] ∧
          c.diagnosticsAt "unknown-owner" file line =
            [⟨.unknownOwner owner separator name, file, line⟩] ∧
          after file line =
            (before file line).report (.unknownOwner owner separator name) file line)) ∧
      (∀ file line name arguments, HasMarker files file line (.function name arguments) →
        ∃ s, c.functions.filter (·.name == name) = [s] ∧ s.routine?.isSome ∧
          (¬DeclaredBefore files file line .functionKind name →
            s.file = file ∧ s.firstLine = line ∧
            c.diagnosticsAt "duplicate-declaration" file line = []) ∧
          (DeclaredBefore files file line .functionKind name →
            c.diagnosticsAt "duplicate-declaration" file line =
              [⟨.duplicateFunction name s.file s.firstLine, file, line⟩] ∧
            after file line = (before file line).report
              (.duplicateFunction name s.file s.firstLine) file line)) ∧
      (c.diagnostics.filter (·.issue.code == "kind-conflict")).length +
        (c.declared.map (·.name)).toFinset.card = c.declared.length := by
  intro c files before after
  refine ⟨?_, fun file line owner separator name arguments hm => ⟨?_, ?_⟩, ?_, ?_⟩
  · rw [← draftOf_eq_enterParts]
    rfl
  · exact fun hbefore => method_stored v hm hbefore
  · exact fun hbefore => method_refused v hm hbefore
  · exact fun file line name arguments hm => function_accounted v hm
  · exact length_conflicts v files

end Catalog

end LuaAtlas
