import LuaAtlas.Proofs.Declaration.Extent
import LuaAtlas.Proofs.Draft.Step

/-!
# What filling a block leaves alone

Between the declaration of a symbol and the end of its block, members are read and stored: bodies
get longer, edges are recorded, and names that are used for the first time get unknown symbols.
`Draft.Fills` says that nothing else happens to the symbols of a draft.  Whatever part of a symbol
lies outside its body and its edges (`Symbol.Outer`) is held by the same symbols before and after.

There is one lemma for each thing that a block may hold (`fills_enterItem`, `fills_enterValue`,
`fills_enterOption`), and one for what is read of a function (`fills_storeRoutine`).  So there are
few shapes that the entering of a declaration can have (`Draft.Entered`): a symbol is declared, it
may be linked to a parent, it is filled, and it may get a last line.  `entered_enter` finds the
shape of every declaration.
-/

namespace LuaAtlas

/-- A part of symbols that lies outside their bodies and edges, and that a name which is only used
does not have. -/
structure Symbol.Outer {β : Type} (part : Symbol → List β) : Prop where
  unknown : ∀ t name file line, part (SymbolTable.newSymbol t .unknown name file line) = []
  mapBody : ∀ (s : Symbol) {g : Body → Body}, (∀ body, (g body).kind = body.kind) →
    part (s.mapBody g) = part s
  addReference : ∀ (s : Symbol) (edge : Edge), part (s.addReference edge) = part s

namespace Draft

variable {v : Vocabulary} {d d' d'' : Draft} {file owner : Nat} {params : List Member}

/-- **Only bodies and edges change**, and only unknown symbols are added. -/
structure Fills (d d' : Draft) : Prop where
  wellFormed : d'.table.WellFormed
  held_eq : ∀ {β : Type} {part : Symbol → List β}, Symbol.Outer part →
    d'.table.held part = d.table.held part

theorem Fills.trans (h : Fills d d') (h' : Fills d' d'') : Fills d d'' :=
  ⟨h'.wellFormed, fun hp => (h'.held_eq hp).trans (h.held_eq hp)⟩

/-- A draft whose symbols stay. -/
theorem Fills.of_symbols_eq (h : d'.table.WellFormed) (hs : d'.table.symbols = d.table.symbols) :
    Fills d d' := by
  refine ⟨h, fun _ => ?_⟩
  unfold SymbolTable.held
  rw [hs]

theorem Fills.refl (h : d.table.WellFormed) : Fills d d := .of_symbols_eq h rfl

/-! ### Changes of single symbols -/

theorem fills_mapBody (h : d.table.WellFormed) (id : Nat) {g : Body → Body}
    (hg : ∀ body, (g body).kind = body.kind) : Fills d (d.modify id (·.mapBody g)) := by
  have hkeeps := Symbol.keeps_mapBody hg
  refine ⟨h.modify hkeeps.id hkeeps.name (fun s _ _ => Or.inr (hkeeps.kind s)) fun s hs _ =>
    hkeeps.nodup s (h.references_nodup s hs), fun hp => ?_⟩
  exact SymbolTable.held_modify (fun _ => rfl) fun s _ _ => hp.mapBody s hg

theorem fills_addEdges (h : d.table.WellFormed) (edges : List (Nat × Edge)) :
    Fills d (d.addEdges edges) := by
  have hext : Extends ∅ d (d.addEdges edges) := extends_addEdges h edges
  refine ⟨hext.wellFormed, fun {β part} hp => ?_⟩
  refine h.addEdges_induction (P := fun t => t.held part = d.table.held part) rfl
    (fun {t} _ ht id edge => ?_) edges
  rw [← ht]
  exact SymbolTable.held_modify (SymbolTable.id_addReference edge)
    fun s _ _ => hp.addReference s edge

theorem Collects.fills (hread : Collects file owner params d d') (h : d.table.WellFormed) :
    Fills d d' := by
  induction hread with
  | refl => exact .refl h
  | report hread issues line ih => exact (ih h).trans (.of_symbols_eq (ih h).wellFormed rfl)
  | resolve hread name line ih =>
    refine (ih h).trans ⟨(ih h).wellFormed.resolve, fun {β part} hp => ?_⟩
    show SymbolTable.held part (SymbolTable.resolve _ name file line).1 = _
    -- a name that is used for the first time gets an unknown symbol, which holds nothing
    unfold SymbolTable.resolve
    split
    · rfl
    · unfold SymbolTable.held
      rw [SymbolTable.symbols_create, List.flatMap_append, List.flatMap_singleton, hp.unknown,
        List.map_nil, List.append_nil]
  | parameter hread p hid hparent hresolves ih =>
    exact (ih h).trans (.of_symbols_eq (ih h).wellFormed.fresh rfl)

/-! ### Storing -/

theorem fills_storeProperty (h : d.table.WellFormed) (p : Member) :
    Fills d (d.storeProperty p) := by
  have hbody := fills_mapBody h p.parent (Body.kind_addProperty p)
  have hlist : Fills (d.modify p.parent (·.mapBody (·.addProperty p)))
      { d.modify p.parent (·.mapBody (·.addProperty p)) with properties := d.properties ++ [p] } :=
    .of_symbols_eq hbody.wellFormed rfl
  exact (hbody.trans hlist).trans (fills_addEdges hlist.wellFormed _)

theorem fills_storeMethod (h : d.table.WellFormed) (m : Method) : Fills d (d.storeMethod m) := by
  have hbody := fills_mapBody h m.parent (Body.kind_addMethod m)
  have hlist : Fills (d.modify m.parent (·.mapBody (·.addMethod m)))
      { d.modify m.parent (·.mapBody (·.addMethod m)) with methods := d.methods ++ [m] } :=
    .of_symbols_eq hbody.wellFormed rfl
  exact (hbody.trans hlist).trans (fills_addEdges hlist.wellFormed _)

theorem fills_storeRoutine (h : d.table.WellFormed) (id : Nat) (r : Routine) :
    Fills d (d.storeRoutine id r) := by
  have hbody := fills_mapBody h id (Body.kind_setRoutine r)
  exact hbody.trans (fills_addEdges hbody.wellFormed _)

/-! ### Parts of blocks -/

theorem fills_enterMethodInto (v : Vocabulary) (file : Nat) (h : d.table.WellFormed)
    (m : MethodLine) (owner : Option Nat) : Fills d (d.enterMethodInto v file m owner) := by
  cases owner with
  | none => exact .of_symbols_eq h rfl
  | some owner =>
    obtain ⟨hread, -⟩ := collects_enterRoutine v file d.fresh.2 d.fresh.1 m.toFunctionLine
    have hfresh : Fills d d.fresh.1 := .of_symbols_eq h.fresh rfl
    have hfilled := hfresh.trans (hread.fills hfresh.wellFormed)
    simp only [enterMethodInto, trackRoutine_eq_addEdges]
    exact hfilled.trans (fills_storeMethod hfilled.wellFormed
      { id := d.fresh.2, parent := owner, name := m.name,
        routine := (d.fresh.1.enterRoutine v file d.fresh.2 m.toFunctionLine).2, file,
        line := m.line })

theorem fills_enterField (v : Vocabulary) (file owner : Nat) (ownerName : Text)
    (h : d.table.WellFormed) (f : FieldLine) :
    Fills d (d.enterField v file owner ownerName f) := by
  unfold enterField
  split
  · exact .of_symbols_eq h rfl
  · rename_i type _
    have hread := (collects_readTagged v owner d type f.optional file f.line).fills h
    have hfresh : Fills d (d.readTagged v type f.optional file f.line).1.fresh.1 :=
      hread.trans (.of_symbols_eq hread.wellFormed.fresh rfl)
    simp only [track_eq_addEdges]
    exact hfresh.trans (fills_storeProperty hfresh.wellFormed
      { id := (d.readTagged v type f.optional file f.line).1.fresh.2, kind := .property,
        parent := owner, name := f.name, rawType := type,
        signature := (d.readTagged v type f.optional file f.line).2, file, line := f.line })

theorem fills_enterItem (v : Vocabulary) (file owner : Nat) (ownerName : Text)
    (h : d.table.WellFormed) (item : ClassItem) :
    Fills d (d.enterItem v file owner ownerName item) := by
  cases item with
  | field f => exact fills_enterField v file owner ownerName h f
  | method m => exact fills_enterMethodInto v file h m _

theorem fills_enterValue (file owner : Nat) (h : d.table.WellFormed) (e : EnumValue) :
    Fills d (d.enterValue file owner e) := by
  have hfresh : Fills d d.fresh.1 := .of_symbols_eq h.fresh rfl
  exact hfresh.trans (fills_mapBody hfresh.wellFormed owner (Body.kind_addValue _))

theorem fills_enterOption (v : Vocabulary) (file owner : Nat) (h : d.table.WellFormed)
    (option : Nat × OptionText) : Fills d (d.enterOption v file owner option) := by
  match option with
  | (_, .literal text) => exact fills_mapBody h owner (Body.kind_addOption _)
  | (line, .type text) =>
    have hread := (collects_readType v owner d text file line).fills h
    exact hread.trans (fills_mapBody hread.wellFormed owner (Body.kind_addOption _))

/-- The parts of a block are entered one after the other. -/
theorem fills_foldl {α : Type} {enterPart : Draft → α → Draft} (h : d.table.WellFormed)
    (hpart : ∀ {d : Draft}, d.table.WellFormed → ∀ a, Fills d (enterPart d a)) (parts : List α) :
    Fills d (parts.foldl enterPart d) := by
  induction parts generalizing d with
  | nil => exact .refl h
  | cons part parts ih =>
    have hone := hpart h part
    exact hone.trans (ih hone.wellFormed)

end Draft

/-! ### Declarations -/

/-- The class and the parent that a declaration links. -/
def Declaration.link? : Declaration → Option (Text × Text)
  | classDecl _ _ name parent _ => parent.map (name, ·)
  | _ => none

namespace Draft

variable {d : Draft}

/-- **What entering a declaration does to symbols**, up to filling them. -/
inductive Entered (file : Nat) (d : Draft) (x : Declaration) : Draft → Prop
  /-- A method declares no symbol. -/
  | method {d' : Draft} (hfills : Fills d d') (hspan : x.span? file = none)
      (hlink : x.link? = none) : Entered file d x d'
  /-- A symbol is declared by its line alone. -/
  | line {kind : SymbolKind} {name : Text} {line : Nat} {d' : Draft} (hk : kind ≠ .unknown)
      (hfills : Fills (d.declare kind name file line).1 d')
      (hspan : x.span? file = some ⟨kind, name, file, line, line⟩) (hlink : x.link? = none) :
      Entered file d x d'
  /-- A symbol is declared by a block without a parent. -/
  | block {kind : SymbolKind} {name : Text} {line lastLine : Nat} {filled : Draft}
      (hk : kind ≠ .unknown) (hfills : Fills (d.declare kind name file line).1 filled)
      (hspan : x.span? file = some ⟨kind, name, file, line, lastLine⟩) (hlink : x.link? = none) :
      Entered file d x (filled.setLastLine (d.declare kind name file line).2 file line lastLine)
  /-- A class is declared and linked to a parent, which is used first. -/
  | child {name parent : Text} {line lastLine : Nat} {used declared : Draft × Nat}
      {filled : Draft} (hused : used = d.resolve parent file line)
      (hdeclared : declared = used.1.declare .classKind name file line)
      (hfills : Fills (declared.1.linkParent declared.2 used.2 name file line) filled)
      (hextends : Extends Set.univ declared.1 (filled.setLastLine declared.2 file line lastLine))
      (hspan : x.span? file = some ⟨.classKind, name, file, line, lastLine⟩)
      (hlink : x.link? = some (name, parent)) :
      Entered file d x (filled.setLastLine declared.2 file line lastLine)

theorem entered_enterClass (v : Vocabulary) (file : Nat) (h : d.table.WellFormed)
    (line lastLine : Nat) (name : Text) (parent : Option Text) (items : List ClassItem) :
    Entered file d (.classDecl line lastLine name parent items)
      (d.enterClass v file line lastLine name parent items) := by
  cases parent with
  | none =>
    have hw : (d.declare .classKind name file line).1.table.WellFormed := h.declare
    exact .block nofun (fills_foldl hw (fun h item => fills_enterItem v file _ name h item) items)
      rfl rfl
  | some parent =>
    let used := d.resolve parent file line
    let declared := used.1.declare .classKind name file line
    -- the parent is used before the class is declared, so its symbol may be the older one
    have hused : used.1.table.WellFormed := h.resolve
    obtain ⟨-, hw, hold⟩ := steps_declare hused .classKind nofun nofun name file line
    have hlink := steps_linkParent declared.1 declared.2 used.2 name file line
    have hlinked := hlink.wellFormed hw
    have hsteps := hlink.trans (steps_fillClass v hlinked (hlink.holds hw nofun hold) name file line
      lastLine items)
    exact .child rfl rfl
      (fills_foldl hlinked (fun h item => fills_enterItem v file declared.2 name h item) items)
      (Steps.extends hsteps hw (Set.mem_univ file)) rfl rfl

theorem fills_enterFunction (v : Vocabulary) (file : Nat) (h : d.table.WellFormed) (name : Text)
    (f : FunctionLine) :
    Fills (d.declare .functionKind name file f.line).1 (d.enterFunction v file name f) := by
  have hw : (d.declare .functionKind name file f.line).1.table.WellFormed := h.declare
  unfold enterFunction
  simp only
  split
  · exact .refl hw
  · split
    · exact .of_symbols_eq hw rfl
    · have hread := (collects_enterRoutine v file (d.declare .functionKind name file f.line).2
        (d.declare .functionKind name file f.line).1 f).1.fills hw
      rw [trackRoutine_eq_addEdges]
      exact hread.trans (fills_storeRoutine hread.wellFormed _ _)

/-- **Every declaration has one of these shapes.** -/
theorem entered_enter (v : Vocabulary) (file : Nat) (h : d.table.WellFormed) (x : Declaration) :
    Entered file d x (d.enter v file x) := by
  cases x with
  | classDecl line lastLine name parent items =>
    exact entered_enterClass v file h line lastLine name parent items
  | enumDecl line lastLine name values ending =>
    have hw : (d.declare .enumKind name file line).1.table.WellFormed := h.declare
    have hfills := fills_foldl hw (fun h e => fills_enterValue file
      (d.declare .enumKind name file line).2 h e) values
    exact .block nofun (hfills.trans (.of_symbols_eq hfills.wellFormed rfl)) rfl rfl
  | aliasLine line name target =>
    have hw : (d.declare .aliasKind name file line).1.table.WellFormed := h.declare
    have hfills : Fills (d.declare .aliasKind name file line).1
        (d.enterAliasLine v file line name target) := by
      unfold enterAliasLine
      simp only
      split
      · exact .of_symbols_eq hw rfl
      · exact fills_enterOption v file _ hw _
    have hk : SymbolKind.aliasKind ≠ .unknown := by decide
    exact .line hk hfills rfl rfl
  | aliasBlock line lastLine name options =>
    have hw : (d.declare .aliasKind name file line).1.table.WellFormed := h.declare
    have hfills := fills_foldl hw (fun h o => fills_enterOption v file
      (d.declare .aliasKind name file line).2 h o) options
    have hk : SymbolKind.aliasKind ≠ .unknown := by decide
    unfold enter enterAliasBlock
    simp only
    split
    · exact .block hk (hfills.trans (.of_symbols_eq hfills.wellFormed rfl)) rfl rfl
    · exact .block hk hfills rfl rfl
  | methodDecl m => exact .method (fills_enterMethodInto v file h m _) rfl rfl
  | functionDecl name f =>
    have hk : SymbolKind.functionKind ≠ .unknown := by decide
    exact .line hk (fills_enterFunction v file h name f) rfl rfl

end Draft

end LuaAtlas
