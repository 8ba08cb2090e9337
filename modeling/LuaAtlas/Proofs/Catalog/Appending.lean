import LuaAtlas.Proofs.Catalog.Declared
import LuaAtlas.Proofs.Draft.Step

/-!
# Files that come later

The catalogue of more files extends the catalogue of fewer: `ofTexts_append` says what stays when
files are added behind the others.  Most of it is `Draft.Extends`, taken from the draft of the first
files to the draft of all of them.

Two things come on top.  A last line may change only while its own file is read, and the file of a
declared symbol is one of the files read so far (`file_lt_of_mem`).  And what is known of a global
function is known as soon as it is declared, so there is nothing left to fill in later
(`filled_draftOf`).
-/

namespace LuaAtlas

/-! ### Functions are read when they are declared -/

namespace SymbolTable

/-- Every global function was read, those with the given numbers apart. -/
def Filled (pending : Set Nat) (t : SymbolTable) : Prop :=
  ∀ s ∈ t.symbols, s.kind = .functionKind → s.id ∈ pending ∨ s.routine?.isSome

variable {pending reading : Set Nat} {t : SymbolTable} {s : Symbol} {kind : SymbolKind} {id : Nat}

theorem Filled.modify {f : Symbol → Symbol} (h : t.Filled pending) (hf : Symbol.Keeps f)
    (hext : ∀ s ∈ t.symbols, s.id = id → s.Extends reading (f s)) :
    (t.modify id f).Filled pending := by
  intro u hu hk
  obtain ⟨s, hs, rfl⟩ := mem_symbols_modify.1 hu
  by_cases hid : s.id = id
  · simp only [hid, ↓reduceIte] at hk ⊢
    rw [hf.kind] at hk
    rw [hf.id]
    refine (h s hs hk).imp_right fun hsome => ?_
    obtain ⟨r, hr⟩ := Option.isSome_iff_exists.1 hsome
    rw [(hext s hs hid).routine? hr]
    rfl
  · simp only [hid, ↓reduceIte] at hk ⊢
    exact h s hs hk

theorem Filled.create (h : t.Filled pending) (hk : kind ≠ .functionKind) (name : Text)
    (file line : Nat) : (t.create kind name file line).1.Filled pending := by
  intro u hu huk
  rcases mem_symbols_create.1 hu with hu | rfl
  · exact h u hu huk
  · rw [kind_newSymbol] at huk
    exact absurd huk hk

theorem Filled.resolve (h : t.Filled pending) (name : Text) (file line : Nat) :
    (t.resolve name file line).1.Filled pending := by
  unfold SymbolTable.resolve
  split
  · exact h
  · have hk : SymbolKind.unknown ≠ .functionKind := by decide
    exact h.create hk name file line

/-- A declaration makes or changes no symbol but its own. -/
theorem WellFormed.mem_or_of_mem_declare (h : t.WellFormed) {name : Text} {file line : Nat}
    {u : Symbol} (hu : u ∈ (t.declare kind name file line).table.symbols) :
    u ∈ t.symbols ∨ u.id = (t.declare kind name file line).id ∧ u.kind = kind := by
  unfold SymbolTable.declare at hu ⊢
  cases hfind : t.find? name kind with
  | some s =>
    rw [hfind] at hu
    exact Or.inl hu
  | none =>
    rw [hfind] at hu
    by_cases hk : kind = .unknown
    · simp only [hk, ↓reduceIte] at hu ⊢
      unfold SymbolTable.resolve at hu ⊢
      cases hl : t.lookup? name with
      | some s =>
        rw [hl] at hu
        exact Or.inl hu
      | none =>
        rw [hl] at hu
        rcases mem_symbols_create.1 hu with hu | rfl
        · exact Or.inl hu
        · exact Or.inr ⟨rfl, kind_newSymbol⟩
    · simp only [hk, ↓reduceIte] at hu ⊢
      cases hunknown : t.find? name .unknown with
      | some s =>
        rw [hunknown] at hu
        obtain ⟨hs, -, -⟩ := mem_of_find?_eq_some hunknown
        rcases (h.mem_symbols_promote hs).1 hu with rfl | ⟨hu, -⟩
        · exact Or.inr ⟨rfl, kind_promoted⟩
        · exact Or.inl hu
      | none =>
        rw [hunknown] at hu
        rcases mem_symbols_create.1 hu with hu | rfl
        · exact Or.inl hu
        · exact Or.inr ⟨rfl, kind_newSymbol⟩

/-- The declaration of a function leaves its own symbol to be read, any other leaves none. -/
theorem Filled.declare (h : t.Filled pending) (hw : t.WellFormed) (kind : SymbolKind)
    (name : Text) (file line : Nat) (hpending : kind = .functionKind →
      (t.declare kind name file line).id ∈ pending) :
    (t.declare kind name file line).table.Filled pending := by
  intro u hu huk
  rcases hw.mem_or_of_mem_declare hu with hu | ⟨hid, hkind⟩
  · exact h u hu huk
  · left
    rw [hid]
    exact hpending (hkind.symm.trans huk)

/-- A function is read. -/
theorem Filled.setRoutine (h : t.Filled {id}) (r : Routine) :
    (t.modify id (·.mapBody (·.setRoutine r))).Filled ∅ := by
  intro u hu hk
  right
  obtain ⟨s, hs, rfl⟩ := mem_symbols_modify.1 hu
  by_cases hid : s.id = id
  · simp only [hid, ↓reduceIte] at hk ⊢
    cases s with | mk _ _ _ _ _ _ _ _ body =>
    cases body <;> cases hk
    rfl
  · simp only [hid, ↓reduceIte] at hk ⊢
    exact (h s hs hk).resolve_left hid

theorem Filled.addEdges (h : t.Filled pending) (hw : t.WellFormed) (edges : List (Nat × Edge)) :
    (t.addEdges edges).1.Filled pending := by
  refine hw.addEdges_induction h (fun _ ht id edge => ?_) edges
  have hext (s : Symbol) : s.Extends Set.univ (s.addReference edge) :=
    Symbol.extends_addReference edge s
  exact ht.modify (spares_addReference edge).toKeeps fun s _ _ => hext s

end SymbolTable

namespace Draft

variable {d d' : Draft} {file owner : Nat} {params : List Member} {pending reading : Set Nat}

theorem Collects.filled (hread : Collects file owner params d d') (h : d.table.Filled pending) :
    d'.table.Filled pending := by
  induction hread with
  | refl => exact h
  | report hread issues line ih => exact ih h
  | resolve hread name line ih => exact (ih h).resolve name file line
  | parameter hread p hid hparent hresolves ih => exact ih h

/-- **A step leaves no function to be read later.** -/
theorem Step.filled (hstep : Step file d d') (hw : d.table.WellFormed) (h : d.table.Filled ∅) :
    d'.table.Filled ∅ := by
  -- a change of one symbol that extends it keeps what was read of functions
  have hmodify {t : SymbolTable} (ht : t.Filled ∅) (id : Nat) {f : Symbol → Symbol}
      (hf : Symbol.Keeps f) (hext : ∀ s, s.Extends Set.univ (f s)) : (t.modify id f).Filled ∅ :=
    ht.modify hf fun s _ _ => hext s
  cases hstep with
  | read hread => exact hread.filled h
  | declare hunknown hfunction name line =>
    exact h.declare hw _ name file line fun hk => absurd hk hfunction
  | link id parent hne =>
    have hparent := hmodify h id (Symbol.spares_setParent parent).toKeeps
      (Symbol.extends_setParent (some parent))
    exact hmodify hparent parent (Symbol.spares_addChild id).toKeeps (Symbol.extends_addChild id)
  | lastLine id line lastLine =>
    exact hmodify h id (Symbol.spares_setLastLine file line lastLine).toKeeps
      (Symbol.extends_setLastLine (Set.mem_univ file) line lastLine)
  | property p hid hparent hresolves =>
    have hkeeps := (Symbol.spares_addProperty p).toKeeps
    have hadded := hmodify (t := d.fresh.1.table) h p.parent hkeeps
      fun s => Symbol.extends_mapBody (Body.extends_addProperty p s.body)
    exact hadded.addEdges (hw.fresh.modify_of_keeps hkeeps p.parent) _
  | method d₁ m hid hparent hread hresolves =>
    have hkeeps := (Symbol.spares_addMethod m).toKeeps
    have hadded := hmodify (hread.filled h) m.parent hkeeps
      fun s => Symbol.extends_mapBody (Body.extends_addMethod m s.body)
    exact hadded.addEdges ((hread.wellFormed hw.fresh).modify_of_keeps hkeeps m.parent) _
  | function d₁ name line s r hs hid hkind hnone hread hresolves =>
    -- the declared function is the only one that may lack its routine, and now it gets it
    have hbut : d.table.Filled {s.id} := fun u hu hk => (h u hu hk).imp_left False.elim
    have hdeclare : (d.declare .functionKind name file line).1.table.Filled {s.id} :=
      hbut.declare hw _ name file line fun _ => hid.symm
    have hw₁ : d₁.table.WellFormed := hread.wellFormed hw.declare
    exact ((hread.filled hdeclare).setRoutine r).addEdges
      (hw₁.modify_of_keeps (Symbol.keeps_mapBody (Body.kind_setRoutine r)) s.id) _
  | value value hid hparent =>
    exact hmodify (t := d.fresh.1.table) h value.parent (Symbol.spares_addValue value).toKeeps
      fun s => Symbol.extends_mapBody (Body.extends_addValue value s.body)
  | option option hparent hresolves =>
    exact hmodify h _ (Symbol.keeps_mapBody (Body.kind_addOption option))
      fun s => Symbol.extends_mapBody (Body.extends_addOption option s.body)

/-! ### Files one after the other -/

theorem enterFiles_append (v : Vocabulary) (first : Nat) (d : Draft)
    (files more : List (List Text)) :
    d.enterFiles v first (files ++ more) =
      (d.enterFiles v first files).enterFiles v (first + files.length) more := by
  induction files generalizing d first with
  | nil => rfl
  | cons lines rest ih =>
    rw [List.cons_append, enterFiles, enterFiles, ih, List.length_cons]
    congr 1
    omega

end Draft

namespace Catalog

variable {v : Vocabulary} {files : List (List Text)} {s : Symbol}

theorem filled_draftOf (v : Vocabulary) (files : List (List Text)) :
    (draftOf v files).table.Filled ∅ :=
  Draft.draftOf_induction v (P := fun d => d.table.Filled ∅) nofun
    (fun hw h hstep => hstep.filled hw h) files

/-- Something is known of every global function. -/
theorem exists_routine_of_mem (hs : s ∈ (draftOf v files).table.symbols)
    (hk : s.kind = .functionKind) : ∃ r, s.routine? = some r :=
  Option.isSome_iff_exists.1 ((filled_draftOf v files s hs hk).resolve_left nofun)

/-- A declared symbol stands in one of the files that were read. -/
theorem file_lt_of_mem (hs : s ∈ (draftOf v files).table.symbols) (hk : s.kind ≠ .unknown) :
    s.file < files.length := by
  obtain ⟨⟨marker, ⟨j, lines, text, -, hfile, -⟩, -⟩, -⟩ := hasMarker_of_mem hs hk
  exact (List.getElem?_eq_some_iff.1 hfile).1

/-- More files extend the draft of the first ones, which are not being read any more. -/
theorem extends_draftOf_append (v : Vocabulary) (files more : List (List Text)) :
    Draft.Extends {i | files.length ≤ i} (draftOf v files) (draftOf v (files ++ more)) := by
  unfold draftOf
  rw [Draft.enterFiles_append]
  refine Draft.extends_enterFiles v _ (wellFormed_draftOf v files) more fun i hi => ?_
  rw [Nat.zero_add] at hi
  exact hi

/-- **A catalogue of more files extends the catalogue of the first ones.**  Every symbol keeps its
number and its name, and its edges are the first of its later edges.  A declared symbol keeps its
kind and its place up to its last line.  What classes, enumerations and aliases hold comes first in
what they hold later, and what is known of a global function stays.  So it is with the lists of
members and diagnostics and with the lines. -/
theorem ofTexts_append (v : Vocabulary) (texts more : List Text) :
    let c := ofTexts v texts
    let c' := ofTexts v (texts ++ more)
    (∀ s ∈ c.symbols, ∃ s', c'.get? s.id = some s' ∧
        s'.id = s.id ∧ s'.name = s.name ∧ s.references <+: s'.references ∧
        (s.kind ≠ .unknown → s'.kind = s.kind ∧ s'.file = s.file ∧ s'.firstLine = s.firstLine ∧
          s'.lastLine = s.lastLine) ∧
        (s.kind = .classKind → s.properties <+: s'.properties ∧ s.methods <+: s'.methods ∧
          s.children <+: s'.children) ∧
        (s.kind = .enumKind → s.values <+: s'.values) ∧
        (s.kind = .aliasKind → s.options <+: s'.options) ∧
        (s.kind = .functionKind → ∃ r, s.routine? = some r ∧ s'.routine? = some r)) ∧
      c.properties <+: c'.properties ∧ c.methods <+: c'.methods ∧
      c.parameters <+: c'.parameters ∧ c.diagnostics <+: c'.diagnostics ∧
      c.files <+: c'.files := by
  intro c c'
  have hfiles : (texts ++ more).map Text.lines =
      texts.map Text.lines ++ more.map Text.lines := List.map_append
  have hdraft : c' = ofDraft (draftOf v (texts.map Text.lines ++ more.map Text.lines))
      (texts.map Text.lines ++ more.map Text.lines) := by
    show ofDraft _ _ = _
    rw [hfiles]
  have hext := extends_draftOf_append v (texts.map Text.lines) (more.map Text.lines)
  rw [hdraft]
  refine ⟨fun s hs => ?_, hext.properties, hext.methods, hext.parameters, hext.diagnostics,
    List.prefix_append ..⟩
  obtain ⟨s', hs', h⟩ := hext.table.exists_mem hs
  refine ⟨s', hext.wellFormed.get?_eq_some_iff.2 ⟨hs', h.id⟩, h.id, h.name, h.references,
    fun hk => ⟨h.kind hk, h.file hk, h.firstLine hk, h.lastLine hk ?_⟩,
    fun _ => ⟨h.properties, h.methods, h.children⟩, fun _ => h.values, fun _ => h.options,
    fun hk => ?_⟩
  · have hlt := file_lt_of_mem hs hk
    simp only [Set.mem_ofPred_eq]
    omega
  · obtain ⟨r, hr⟩ := exists_routine_of_mem hs hk
    exact ⟨r, hr, h.routine? hr⟩

end Catalog

end LuaAtlas
