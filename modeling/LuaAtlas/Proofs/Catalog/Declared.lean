import LuaAtlas.Catalog.Basic
import LuaAtlas.Proofs.Draft.Entering

/-!
# A catalogue declares what its files declare

`Catalog.ofTexts_declared` compares a catalogue with the marker lines of its files, taken by
themselves: the declared symbols are those that some marker line declares, each at the first such
line, and the unresolved ones are those that are not declared and are the parent of a class or are
mentioned in a type that the catalogue keeps.

The marker lines of all files are listed once (`Mark.ofFiles`), in the order in which they are
entered.  A declaration accounts for its own marker lines (`Draft.accounts_enter`), and so do a file
and all files.
-/

namespace LuaAtlas

/-! ### Marker lines of files -/

/-- The kind and name that a marker declares.  A method is not a symbol. -/
def Marker.declared? : Marker → Option (SymbolKind × Text)
  | classDef name _ => some (.classKind, name)
  | enumDef name => some (.enumKind, name)
  | aliasDef name _ => some (.aliasKind, name)
  | method .. => none
  | function name _ => some (.functionKind, name)

/-- The parent that a marker gives to a class. -/
def Marker.parent? : Marker → Option Text
  | classDef _ parent => parent
  | _ => none

theorem Marker.declared?_ne_unknown (marker : Marker) (name : Text) :
    marker.declared? ≠ some (.unknown, name) := by
  cases marker <;> simp [declared?]

/-- The line of a file with a number is a marker line. -/
def HasMarker (files : List (List Text)) (file line : Nat) (marker : Marker) : Prop :=
  ∃ j lines text, line = j + 1 ∧ files[file]? = some lines ∧ lines[j]? = some text ∧
    marker? text = some marker

/-- A marker line of a file. -/
structure Mark where
  file : Nat
  line : Nat
  marker : Marker

namespace Mark

/-- The site at which a marker line declares something. -/
def site? (m : Mark) : Option Site :=
  m.marker.declared?.map fun p => ⟨p.1, p.2, m.file, m.line⟩

/-- The sites of marker lines. -/
def sites (marks : List Mark) : List Site := marks.filterMap site?

/-- The names that marker lines declare or give as parents. -/
def names (marks : List Mark) : Set Text :=
  {name | ∃ m ∈ marks, (∃ kind, m.marker.declared? = some (kind, name)) ∨
    m.marker.parent? = some name}

/-- Marker lines of the file with an index. -/
def inFile (file : Nat) (markers : List (Nat × Marker)) : List Mark :=
  markers.map fun p => ⟨file, p.1, p.2⟩

/-- **The marker lines of a list of files**; the first file has the given index. -/
def ofFiles (file : Nat) : List (List Text) → List Mark
  | [] => []
  | lines :: rest => inFile file (markersFrom 1 lines) ++ ofFiles (file + 1) rest

variable {marks later : List Mark} {m : Mark} {file : Nat} {kind : SymbolKind} {name : Text}

theorem sites_append (marks later : List Mark) :
    sites (marks ++ later) = sites marks ++ sites later :=
  List.filterMap_append

theorem names_append (marks later : List Mark) :
    names (marks ++ later) = names marks ∪ names later := by
  ext name
  simp only [names, List.mem_append, or_and_right, exists_or, Set.mem_ofPred_eq, Set.mem_union]

theorem names_nil : names [] = ∅ := by
  ext name
  simp [names]

theorem names_singleton (m : Mark) :
    names [m] = {name | (∃ kind, m.marker.declared? = some (kind, name)) ∨
      m.marker.parent? = some name} := by
  ext name
  simp [names]

/-- The marker lines of files are listed with their file, number and marker. -/
theorem mem_ofFiles {files : List (List Text)} {first : Nat} :
    m ∈ ofFiles first files ↔ ∃ i, m.file = first + i ∧ HasMarker files i m.line m.marker := by
  induction files generalizing first with
  | nil =>
    constructor
    · exact nofun
    · rintro ⟨i, -, j, lines, text, -, hi, -⟩
      cases hi
  | cons lines rest ih =>
    rw [ofFiles, List.mem_append, ih, inFile, List.mem_map]
    constructor
    · rintro (⟨⟨n, marker⟩, hmem, rfl⟩ | ⟨i, hf, hrest⟩)
      · obtain ⟨j, text, rfl, hj, hm⟩ := mem_markersFrom.1 hmem
        exact ⟨0, rfl, j, lines, text, Nat.add_comm .., rfl, hj, hm⟩
      · exact ⟨i + 1, by omega, hrest⟩
    · rintro ⟨i, hf, hrest⟩
      cases i with
      | zero =>
        obtain ⟨j, lines', text, hl, hi, hj, hm⟩ := hrest
        cases hi
        refine Or.inl ⟨(m.line, m.marker), mem_markersFrom.2 ⟨j, text, by omega, hj, hm⟩, ?_⟩
        cases m
        cases hf
        rfl
      | succ i => exact Or.inr ⟨i, by omega, hrest⟩

theorem mem_ofFiles_zero {files : List (List Text)} :
    m ∈ ofFiles 0 files ↔ HasMarker files m.file m.line m.marker := by
  rw [mem_ofFiles]
  constructor
  · rintro ⟨i, hf, hm⟩
    rw [hf, Nat.zero_add]
    exact hm
  · intro hm
    exact ⟨m.file, (Nat.zero_add _).symm, hm⟩

/-- One marker line comes before another in the order of files and lines. -/
def Before (m m' : Mark) : Prop := m.file < m'.file ∨ m.file = m'.file ∧ m.line < m'.line

theorem pairwise_ofFiles (first : Nat) (files : List (List Text)) :
    (ofFiles first files).Pairwise Before := by
  induction files generalizing first with
  | nil => exact .nil
  | cons lines rest ih =>
    rw [ofFiles, List.pairwise_append]
    refine ⟨?_, ih (first + 1), ?_⟩
    · rw [inFile, List.pairwise_map]
      exact (pairwise_markersFrom 1 lines).imp fun hlt => Or.inr ⟨rfl, hlt⟩
    · rintro m hm m' hm'
      obtain ⟨p, -, rfl⟩ := List.mem_map.1 hm
      obtain ⟨i, hf, -⟩ := mem_ofFiles.1 hm'
      exact Or.inl (show first < m'.file by omega)

/-- Whether a marker line declares a name under a kind. -/
def declares (kind : SymbolKind) (name : Text) (m : Mark) : Bool :=
  m.marker.declared? == some (kind, name)

/-- The first site of a name and a kind is the first marker line that declares them. -/
theorem first?_sites (marks : List Mark) (kind : SymbolKind) (name : Text) :
    Site.first? (sites marks) kind name =
      (marks.find? (declares kind name)).map fun m => (m.file, m.line) := by
  have hkey : (fun m : Mark => m.site?.any fun x => x.kind == kind && x.name == name) =
      declares kind name := by
    funext m
    rw [declares, site?]
    cases m.marker.declared? with
    | none => rfl
    | some key => rfl
  rw [Site.first?, sites, List.find?_filterMap, hkey]
  cases hfind : marks.find? (declares kind name) with
  | none => rfl
  | some m =>
    have hdeclared : m.marker.declared? = some (kind, name) := by
      simpa [declares] using List.find?_some hfind
    rw [Option.bind_some, site?, hdeclared]
    rfl

/-- In the order of files and lines it comes first. -/
theorem first?_sites_eq_some {place : Nat × Nat} (hsorted : marks.Pairwise Before)
    (h : Site.first? (sites marks) kind name = some place) :
    (∃ m ∈ marks, m.file = place.1 ∧ m.line = place.2 ∧ m.marker.declared? = some (kind, name)) ∧
      ∀ m ∈ marks, m.marker.declared? = some (kind, name) →
        place.1 < m.file ∨ place.1 = m.file ∧ place.2 ≤ m.line := by
  rw [first?_sites, Option.map_eq_some_iff] at h
  obtain ⟨m, hfind, rfl⟩ := h
  obtain ⟨hm, before, after, rfl, hbefore⟩ := List.find?_eq_some_iff_append.1 hfind
  have hd : m.marker.declared? = some (kind, name) := by simpa [declares] using hm
  refine ⟨⟨m, List.mem_append_right _ (List.mem_cons_self ..), rfl, rfl, hd⟩, ?_⟩
  intro m' hm' hd'
  -- none before it declares the name, and all behind it come later
  rcases List.mem_append.1 hm' with hearly | hlate
  · exact absurd (hbefore m' hearly) (by simp [declares, hd'])
  rcases List.mem_cons.1 hlate with rfl | hlater
  · exact Or.inr ⟨rfl, Nat.le_refl _⟩
  · have hlt := (List.pairwise_cons.1 (List.pairwise_append.1 hsorted).2.1).1 m' hlater
    exact hlt.imp_right fun hlt => ⟨hlt.1, Nat.le_of_lt hlt.2⟩

theorem first?_sites_eq_none :
    Site.first? (sites marks) kind name = none ↔
      ∀ m ∈ marks, m.marker.declared? ≠ some (kind, name) := by
  rw [first?_sites, Option.map_eq_none_iff, List.find?_eq_none]
  simp [declares]

end Mark

/-! ### Entering -/

namespace Draft

variable {v : Vocabulary} {d d' d'' : Draft} {file : Nat}

/-- A method declares no symbol. -/
theorem names_method (file : Nat) (m : MethodLine) :
    Mark.names (Mark.inFile file [m.dispatched]) = ∅ := by
  refine (Mark.names_singleton _).trans ?_
  ext name
  simp [MethodLine.dispatched, Marker.declared?, Marker.parent?]

/-- The block of a class declares no symbol. -/
theorem sites_items (file : Nat) (items : List ClassItem) :
    Mark.sites (Mark.inFile file (items.flatMap ClassItem.dispatched)) = [] := by
  induction items with
  | nil => rfl
  | cons item items ih => cases item <;> exact ih

theorem names_items (file : Nat) (items : List ClassItem) :
    Mark.names (Mark.inFile file (items.flatMap ClassItem.dispatched)) = ∅ := by
  induction items with
  | nil => exact Mark.names_nil
  | cons item items ih =>
    cases item with
    | field f => exact ih
    | method m =>
      refine (Mark.names_append (Mark.inFile file [m.dispatched]) _).trans ?_
      rw [names_method, Set.empty_union]
      exact ih

/-- The names that a declaration other than a class accounts for. -/
theorem names_of_declared? {marker : Marker} {kind : SymbolKind} {name : Text} (file line : Nat)
    (hdeclared : marker.declared? = some (kind, name)) (hparent : marker.parent? = none) :
    Mark.names (Mark.inFile file [(line, marker)]) = {name} := by
  refine (Mark.names_singleton _).trans ?_
  ext n
  simp [hdeclared, hparent, eq_comm]

/-- **A declaration accounts for its marker lines.** -/
theorem accounts_enter (v : Vocabulary) (file : Nat) (h : d.table.WellFormed) (x : Declaration) :
    Accounts (Mark.sites (Mark.inFile file x.dispatched))
      (Mark.names (Mark.inFile file x.dispatched)) d (d.enter v file x) := by
  cases x with
  | classDecl line lastLine name parent items =>
    have hsites : Mark.sites (Mark.inFile file
        (Declaration.classDecl line lastLine name parent items).dispatched) =
          [⟨.classKind, name, file, line⟩] :=
      congrArg (List.cons _) (sites_items file items)
    have hnames : Mark.names (Mark.inFile file
        (Declaration.classDecl line lastLine name parent items).dispatched) =
          {p | parent = some p} ∪ {name} := by
      refine (Mark.names_append [⟨file, line, .classDef name parent⟩] _).trans ?_
      rw [← Mark.inFile, names_items, Set.union_empty, Mark.names_singleton]
      ext n
      simp [Marker.declared?, Marker.parent?, eq_comm]
    rw [hsites, hnames]
    exact accounts_enterClass v file h line lastLine name parent items
  | enumDecl line lastLine name values ending =>
    rw [Declaration.dispatched, names_of_declared? file line rfl rfl]
    exact accounts_enterEnum file h line lastLine name values ending
  | aliasLine line name target =>
    rw [Declaration.dispatched, names_of_declared? file line rfl rfl]
    exact accounts_enterAliasLine v file h line name target
  | aliasBlock line lastLine name options =>
    rw [Declaration.dispatched, names_of_declared? file line rfl rfl]
    exact accounts_enterAliasBlock v file h line lastLine name options
  | methodDecl m =>
    rw [Declaration.dispatched, names_method]
    exact accounts_enterMethodInto v file h m _
  | functionDecl name f =>
    rw [Declaration.dispatched, names_of_declared? file f.line rfl rfl]
    exact accounts_enterFunction v file h name f

theorem accounts_nil (h : d.table.WellFormed) : Accounts (Mark.sites []) (Mark.names []) d d := by
  rw [Mark.names_nil]
  exact (Quiet.of_eq h rfl rfl rfl rfl).accounts

/-- The marker lines of two steps are those of both. -/
theorem Accounts.append {marks later : List Mark}
    (h : Accounts (Mark.sites marks) (Mark.names marks) d d')
    (h' : Accounts (Mark.sites later) (Mark.names later) d' d'') :
    Accounts (Mark.sites (marks ++ later)) (Mark.names (marks ++ later)) d d'' := by
  rw [Mark.sites_append, Mark.names_append]
  exact h.trans h'

theorem accounts_enterAll (v : Vocabulary) (file : Nat) (h : d.table.WellFormed)
    (declarations : List Declaration) :
    Accounts (Mark.sites (Mark.inFile file (declarations.flatMap Declaration.dispatched)))
      (Mark.names (Mark.inFile file (declarations.flatMap Declaration.dispatched)))
      d (declarations.foldl (enter v file) d) := by
  induction declarations generalizing d with
  | nil => exact accounts_nil h
  | cons x declarations ih =>
    have hone := accounts_enter v file h x
    have hall := hone.append (ih hone.wellFormed)
    rw [Mark.inFile, Mark.inFile, ← List.map_append] at hall
    exact hall

/-- **A file accounts for all its marker lines.** -/
theorem accounts_enterFile (v : Vocabulary) (file : Nat) (h : d.table.WellFormed)
    (lines : List Text) :
    Accounts (Mark.sites (Mark.inFile file (markersFrom 1 lines)))
      (Mark.names (Mark.inFile file (markersFrom 1 lines))) d (d.enterFile v file lines) := by
  have hall := accounts_enterAll v file h (Declaration.ofLines lines)
  rw [Declaration.ofLines, Declaration.dispatched_scan [] 0 lines] at hall
  exact hall

theorem accounts_enterFiles (v : Vocabulary) (file : Nat) (h : d.table.WellFormed)
    (files : List (List Text)) :
    Accounts (Mark.sites (Mark.ofFiles file files)) (Mark.names (Mark.ofFiles file files)) d
      (d.enterFiles v file files) := by
  induction files generalizing d file with
  | nil => exact accounts_nil h
  | cons lines rest ih =>
    have hone := accounts_enterFile v file h lines
    exact hone.append (ih (file + 1) hone.wellFormed)

end Draft

namespace Catalog

/-! ### Catalogues -/

/-- The types that a catalogue keeps: those of properties and parameters, those that methods and
functions return and those that aliases stand for. -/
def signatures (c : Catalog) : List Signature :=
  c.properties.map (·.signature) ++ c.parameters.map (·.signature) ++
    c.methods.flatMap (·.routine.allReturns) ++ c.symbols.flatMap Symbol.signatures

variable {c : Catalog} {s : Symbol}

theorem mem_declared : s ∈ c.declared ↔ s ∈ c.symbols ∧ s.kind ≠ .unknown := by
  simp only [declared, classes, enums, aliases, functions, ofKind, List.mem_append, List.mem_filter,
    beq_iff_eq]
  cases s.kind <;> simp

theorem mem_unresolved : s ∈ c.unresolved ↔ s ∈ c.symbols ∧ s.kind = .unknown := by
  simp only [unresolved, ofKind, List.mem_filter, beq_iff_eq]

/-- The declared symbols are all symbols but the unknown ones, each once. -/
theorem perm_declared (c : Catalog) : c.declared.Perm (c.symbols.filter (·.kind != .unknown)) := by
  unfold declared classes enums aliases functions ofKind
  induction c.symbols with
  | nil => exact .refl _
  | cons s symbols ih =>
    -- the symbol is listed under its own kind, which may stand in the middle
    have hmiddle (front back : List Symbol) : (front ++ s :: back).Perm (s :: (front ++ back)) :=
      List.perm_middle
    let of (kind : SymbolKind) : List Symbol := symbols.filter (·.kind == kind)
    have hcons := ih.cons s
    cases hk : s.kind with
    | classKind => simpa [hk] using ih
    | enumKind =>
      have hfront := hmiddle (of .classKind) (of .enumKind ++ of .aliasKind ++ of .functionKind)
      simpa [hk, of] using hfront.trans (by simpa [of] using hcons)
    | aliasKind =>
      have hfront := hmiddle (of .classKind ++ of .enumKind) (of .aliasKind ++ of .functionKind)
      simpa [hk, of] using hfront.trans (by simpa [of] using hcons)
    | functionKind =>
      have hfront := hmiddle (of .classKind ++ of .enumKind ++ of .aliasKind) (of .functionKind)
      simpa [hk, of] using hfront.trans (by simpa [of] using hcons)
    | unknown => simpa [hk] using ih

section Draft

variable (v : Vocabulary) (files : List (List Text)) {kind : SymbolKind} {name : Text}

theorem accounts_draftOf :
    Draft.Accounts (Mark.sites (Mark.ofFiles 0 files)) (Mark.names (Mark.ofFiles 0 files)) {}
      (draftOf v files) :=
  Draft.accounts_enterFiles (d := {}) v 0 SymbolTable.wellFormed_empty files

theorem wellFormed_draftOf : (draftOf v files).table.WellFormed :=
  (accounts_draftOf v files).wellFormed

/-- A declared name stands at its first marker line. -/
theorem place?_draftOf (hk : kind ≠ .unknown) :
    (draftOf v files).table.place? kind name =
      Site.first? (Mark.sites (Mark.ofFiles 0 files)) kind name := by
  obtain ⟨read, h⟩ := accounts_draftOf v files
  obtain ⟨held, hg⟩ := h.grows
  exact hg.place?_eq kind name hk

/-- A name has a symbol if a marker line names it or a kept type mentions it. -/
theorem names_draftOf :
    (draftOf v files).table.names =
      Mark.names (Mark.ofFiles 0 files) ∪ mentioned (draftOf v files).signatures := by
  obtain ⟨read, h⟩ := accounts_draftOf v files
  obtain ⟨held, hg⟩ := h.grows
  have hempty : mentioned (Draft.signatures {}) = ∅ := mentioned_nil
  have hnone : SymbolTable.names {} = ∅ := by
    ext name
    simp [SymbolTable.names]
  rw [h.mentioned_eq, hempty, Set.empty_union, hg.names_eq, hnone, Set.empty_union]

variable {v files}

/-- A declared symbol is found under its name and kind, where its first marker line put it. -/
theorem first?_of_mem (hs : s ∈ (draftOf v files).table.symbols) (hk : s.kind ≠ .unknown) :
    Site.first? (Mark.sites (Mark.ofFiles 0 files)) s.kind s.name = some (s.file, s.firstLine) := by
  have hfind := (wellFormed_draftOf v files).find?_eq_some_iff.2 ⟨hs, rfl, rfl⟩
  rw [← place?_draftOf v files hk, SymbolTable.place?, hfind]
  rfl

/-- What a marker line declares has a symbol. -/
theorem exists_mem_symbols {file line : Nat} {marker : Marker}
    (hm : HasMarker files file line marker) (hd : marker.declared? = some (kind, name)) :
    ∃ s ∈ (draftOf v files).table.symbols, s.kind ≠ .unknown ∧ s.kind = kind ∧ s.name = name := by
  have hk : kind ≠ .unknown := by
    rintro rfl
    exact marker.declared?_ne_unknown name hd
  have hmark : (⟨file, line, marker⟩ : Mark) ∈ Mark.ofFiles 0 files := Mark.mem_ofFiles_zero.2 hm
  cases hfind : (draftOf v files).table.find? name kind with
  | none =>
    -- a name without a place would have no site either
    have hplace : (draftOf v files).table.place? kind name = _ := place?_draftOf v files hk
    rw [SymbolTable.place?, hfind, eq_comm] at hplace
    exact absurd hd (Mark.first?_sites_eq_none.1 hplace _ hmark)
  | some s =>
    obtain ⟨hs, hn, hsk⟩ := SymbolTable.mem_of_find?_eq_some hfind
    exact ⟨s, hs, hsk ▸ hk, hsk, hn⟩

/-- A declared symbol stands at a marker line that declares it, and no such line comes before. -/
theorem hasMarker_of_mem (hs : s ∈ (draftOf v files).table.symbols) (hk : s.kind ≠ .unknown) :
    (∃ marker, HasMarker files s.file s.firstLine marker ∧
      marker.declared? = some (s.kind, s.name)) ∧
    ∀ file line marker, HasMarker files file line marker →
      marker.declared? = some (s.kind, s.name) →
      s.file < file ∨ s.file = file ∧ s.firstLine ≤ line := by
  obtain ⟨⟨m, hm, hf, hl, hd⟩, hleast⟩ :=
    Mark.first?_sites_eq_some (Mark.pairwise_ofFiles 0 files) (first?_of_mem hs hk)
  refine ⟨⟨m.marker, ?_, hd⟩, ?_⟩
  · have hmarker := Mark.mem_ofFiles_zero.1 hm
    rw [hf, hl] at hmarker
    exact hmarker
  · intro file line marker hmarker
    exact hleast ⟨file, line, marker⟩ (Mark.mem_ofFiles_zero.2 hmarker)

/-- A name has a symbol exactly when a marker line declares it or gives it as a parent, or a kept
type mentions it. -/
theorem mem_names_draftOf :
    name ∈ (draftOf v files).table.names ↔
      (∃ file line marker, HasMarker files file line marker ∧
        ((∃ kind, marker.declared? = some (kind, name)) ∨ marker.parent? = some name)) ∨
      name ∈ mentioned (draftOf v files).signatures := by
  rw [names_draftOf, Set.mem_union]
  refine or_congr_left ?_
  constructor
  · rintro ⟨m, hm, hname⟩
    exact ⟨m.file, m.line, m.marker, Mark.mem_ofFiles_zero.1 hm, hname⟩
  · rintro ⟨file, line, marker, hm, hname⟩
    exact ⟨⟨file, line, marker⟩, Mark.mem_ofFiles_zero.2 hm, hname⟩

/-- A name with an unknown symbol is declared by no marker line. -/
theorem not_declared_of_unknown (hs : s ∈ (draftOf v files).table.symbols)
    (hk : s.kind = .unknown) {file line : Nat} {marker : Marker}
    (hm : HasMarker files file line marker) : marker.declared? ≠ some (kind, s.name) := by
  intro hd
  obtain ⟨u, hu, huk, -, hn⟩ := exists_mem_symbols (v := v) hm hd
  -- a declared symbol of the same name would not be alone
  rw [← (wellFormed_draftOf v files).alone s hs u hu hn.symm hk] at huk
  exact huk hk

end Draft

/-- **A catalogue declares exactly what its files declare.**  A name is declared under a kind if and
only if some marker line declares it so, and its symbol stands at the first such line, in the order
of files and lines.  A name is unresolved if and only if no marker line declares it and it is the
parent of some class or is mentioned in a type that the catalogue keeps. -/
theorem ofTexts_declared (v : Vocabulary) (texts : List Text) :
    let c := ofTexts v texts
    let files := texts.map Text.lines
    (∀ kind name, (∃ s ∈ c.declared, s.kind = kind ∧ s.name = name) ↔
        ∃ file line marker, HasMarker files file line marker ∧
          marker.declared? = some (kind, name)) ∧
      (∀ s ∈ c.declared,
        (∃ marker, HasMarker files s.file s.firstLine marker ∧
          marker.declared? = some (s.kind, s.name)) ∧
        ∀ file line marker, HasMarker files file line marker →
          marker.declared? = some (s.kind, s.name) →
          s.file < file ∨ s.file = file ∧ s.firstLine ≤ line) ∧
      ∀ name, (∃ s ∈ c.unresolved, s.name = name) ↔
        (¬∃ file line marker kind, HasMarker files file line marker ∧
          marker.declared? = some (kind, name)) ∧
        ((∃ file line marker, HasMarker files file line marker ∧ marker.parent? = some name) ∨
          ∃ signature ∈ c.signatures, ∃ r ∈ signature.refs, r.token = name) := by
  intro c files
  refine ⟨?_, ?_, ?_⟩
  · intro kind name
    constructor
    · rintro ⟨s, hs, rfl, rfl⟩
      obtain ⟨hmem, hk⟩ := mem_declared.1 hs
      obtain ⟨⟨marker, hmarker⟩, -⟩ := hasMarker_of_mem (v := v) hmem hk
      exact ⟨s.file, s.firstLine, marker, hmarker⟩
    · rintro ⟨file, line, marker, hmarker, hd⟩
      obtain ⟨s, hs, hk, hkey⟩ := exists_mem_symbols (v := v) hmarker hd
      exact ⟨s, mem_declared.2 ⟨hs, hk⟩, hkey⟩
  · intro s hs
    obtain ⟨hmem, hk⟩ := mem_declared.1 hs
    exact hasMarker_of_mem (v := v) hmem hk
  · intro name
    constructor
    · rintro ⟨s, hs, rfl⟩
      obtain ⟨hmem, hk⟩ := mem_unresolved.1 hs
      have hnot {file line : Nat} {marker : Marker} (hm : HasMarker files file line marker) :
          ∀ kind, marker.declared? ≠ some (kind, s.name) :=
        fun _ => not_declared_of_unknown (v := v) hmem hk hm
      refine ⟨fun ⟨file, line, marker, kind, hm, hd⟩ => hnot hm kind hd, ?_⟩
      -- the symbol was made for some use of its name
      have hnames : s.name ∈ (draftOf v files).table.names := ⟨s, hmem, rfl⟩
      rcases mem_names_draftOf.1 hnames with ⟨file, line, marker, hm, ⟨kind, hd⟩ | hp⟩ | hread
      · exact absurd hd (hnot hm kind)
      · exact Or.inl ⟨file, line, marker, hm, hp⟩
      · exact Or.inr hread
    · rintro ⟨hnot, hused⟩
      have hnames : name ∈ (draftOf v files).table.names := by
        refine mem_names_draftOf.2 ?_
        rcases hused with ⟨file, line, marker, hm, hp⟩ | hread
        · exact Or.inl ⟨file, line, marker, hm, Or.inr hp⟩
        · exact Or.inr hread
      obtain ⟨s, hs, rfl⟩ := hnames
      refine ⟨s, mem_unresolved.2 ⟨hs, ?_⟩, rfl⟩
      by_contra hk
      -- a symbol of another kind comes from a marker line
      obtain ⟨⟨marker, hmarker, hd⟩, -⟩ := hasMarker_of_mem (v := v) hs hk
      exact hnot ⟨s.file, s.firstLine, marker, s.kind, hmarker, hd⟩

end Catalog

end LuaAtlas
