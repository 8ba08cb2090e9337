import LuaAtlas.Catalog.Basic
import LuaAtlas.Proofs.Draft.Collecting
import Mathlib.Logic.Relation

/-!
# The steps of entering

Everything that entering declarations does to a draft is a sequence of few kinds of steps.  A
`Draft.Step` is a reading or one change that leaves the draft complete: a declaration, a link, a
last line, a value, an option, or a property, method or function that is stored together with its
edges.

`steps_enter` takes every declaration apart into steps, and `draftOf_induction` turns it into an
induction principle: what holds of the empty draft and passes through every step holds of the draft
of any files.  The first use of steps is that a draft is only ever extended (`Step.extends`).
-/

namespace LuaAtlas.Draft

open Relation (ReflTransGen)

variable {v : Vocabulary} {d d' d'' : Draft} {file line owner : Nat} {params : List Member}

/-! ### Storing -/

/-- Edges are recorded and counted. -/
def addEdges (d : Draft) (edges : List (Nat × Edge)) : Draft :=
  { d with
    table := (d.table.addEdges edges).1
    edgeCount := d.edgeCount + (d.table.addEdges edges).2 }

theorem addEdges_append (d : Draft) (edges later : List (Nat × Edge)) :
    d.addEdges (edges ++ later) = (d.addEdges edges).addEdges later := by
  unfold addEdges
  rw [SymbolTable.addEdges_append, Nat.add_assoc]

theorem track_eq_addEdges (d : Draft) (kind : EdgeKind) (referencer : Nat)
    (signature : Signature) :
    d.track kind referencer signature = d.addEdges (Edge.ofType kind referencer signature) := by
  unfold track addEdges
  rw [SymbolTable.track_eq_addEdges]

theorem trackAll_eq_addEdges (d : Draft) (kind : EdgeKind) (referencer : Nat)
    (signatures : List Signature) :
    d.trackAll kind referencer signatures =
      d.addEdges (signatures.flatMap (Edge.ofType kind referencer)) := by
  induction signatures generalizing d with
  | nil => rfl
  | cons signature signatures ih =>
    rw [List.flatMap_cons, addEdges_append, ← track_eq_addEdges, ← ih]
    rfl

theorem trackRoutine_eq_addEdges (d : Draft) (kind : EdgeKind) (referencer : Nat) (r : Routine) :
    d.trackRoutine kind referencer r = d.addEdges (Edge.ofRoutine kind referencer r) := by
  unfold trackRoutine
  rw [trackAll_eq_addEdges, trackAll_eq_addEdges, ← addEdges_append]
  rfl

/-- A property is put into its class and listed, and the symbols that it mentions get edges. -/
def storeProperty (d : Draft) (p : Member) : Draft :=
  ({ d.modify p.parent (·.mapBody (·.addProperty p)) with
      properties := d.properties ++ [p] }).addEdges (Edge.ofType .property p.id p.signature)

/-- A method is put into its class and listed, and the symbols that it mentions get edges. -/
def storeMethod (d : Draft) (m : Method) : Draft :=
  ({ d.modify m.parent (·.mapBody (·.addMethod m)) with
      methods := d.methods ++ [m] }).addEdges (Edge.ofRoutine .method m.id m.routine)

/-- What was read of a function is put into its symbol, and the symbols that it mentions get
edges. -/
def storeRoutine (d : Draft) (id : Nat) (r : Routine) : Draft :=
  (d.modify id (·.mapBody (·.setRoutine r))).addEdges (Edge.ofRoutine .globalFunction id r)

/-! ### Steps -/

/-- **One step of entering the declarations of a file.** -/
inductive Step (file : Nat) : Draft → Draft → Prop
  /-- Types are read and issues reported. -/
  | read {d d' : Draft} {owner : Nat} (h : Collects file owner [] d d') : Step file d d'
  /-- A class, an enumeration or an alias is declared. -/
  | declare {d : Draft} {kind : SymbolKind} (hunknown : kind ≠ .unknown)
      (hfunction : kind ≠ .functionKind) (name : Text) (line : Nat) :
      Step file d (d.declare kind name file line).1
  /-- A class gets its parent. -/
  | link {d : Draft} (id parent : Nat) (hne : parent ≠ id) :
      Step file d
        ((d.modify id ({ · with parent := some parent })).modify parent (·.addChild id))
  /-- A block gets its last line. -/
  | lastLine {d : Draft} (id line lastLine : Nat) :
      Step file d (d.setLastLine id file line lastLine)
  /-- A property gets the next number and is stored. -/
  | property {d : Draft} (p : Member) (hid : p.id = d.table.nextId)
      (hparent : d.table.Holds p.parent .classKind) (hresolves : d.table.Resolves p.signature) :
      Step file d (d.fresh.1.storeProperty p)
  /-- A method gets the next number; then it is read and stored. -/
  | method {d : Draft} (d₁ : Draft) (m : Method) (hid : m.id = d.table.nextId)
      (hparent : d.table.Holds m.parent .classKind)
      (hread : Collects file m.id m.routine.params d.fresh.1 d₁)
      (hresolves : ∀ signature ∈ m.routine.allReturns, d₁.table.Resolves signature) :
      Step file d (d₁.storeMethod m)
  /-- A function of which nothing is known is declared, read and stored. -/
  | function {d : Draft} (d₁ : Draft) (name : Text) (line : Nat) (s : Symbol) (r : Routine)
      (hs : s ∈ (d.declare .functionKind name file line).1.table.symbols)
      (hid : s.id = (d.declare .functionKind name file line).2)
      (hkind : s.kind = .functionKind) (hnone : s.routine? = none)
      (hread : Collects file s.id r.params (d.declare .functionKind name file line).1 d₁)
      (hresolves : ∀ signature ∈ r.allReturns, d₁.table.Resolves signature) :
      Step file d (d₁.storeRoutine s.id r)
  /-- A value gets the next number and is put into its enumeration. -/
  | value {d : Draft} (value : Member) (hid : value.id = d.table.nextId)
      (hparent : d.table.Holds value.parent .enumKind) :
      Step file d (d.fresh.1.modify value.parent (·.mapBody (·.addValue value)))
  /-- An option is put into its alias. -/
  | option {d : Draft} {owner : Nat} (option : AliasOption)
      (hparent : d.table.Holds owner .aliasKind) (hresolves : d.table.Resolves option.signature) :
      Step file d (d.modify owner (·.mapBody (·.addOption option)))

/-! ### Steps extend a draft -/

/-- **How a draft may change** while the given files are read: its table is extended, and its lists
get longer at their end. -/
structure Extends (reading : Set Nat) (d d' : Draft) : Prop where
  table : d.table.Extends reading d'.table
  properties : d.properties <+: d'.properties
  methods : d.methods <+: d'.methods
  parameters : d.parameters <+: d'.parameters
  diagnostics : d.diagnostics <+: d'.diagnostics

variable {reading : Set Nat} {kind : SymbolKind} {id : Nat}

theorem Extends.wellFormed (h : Extends reading d d') : d'.table.WellFormed := h.table.wellFormed

theorem Extends.trans (h : Extends reading d d') (h' : Extends reading d' d'') :
    Extends reading d d'' :=
  ⟨h.table.trans h'.table, h.properties.trans h'.properties, h.methods.trans h'.methods,
    h.parameters.trans h'.parameters, h.diagnostics.trans h'.diagnostics⟩

/-- Only the table is changed. -/
theorem Extends.of_table {t : SymbolTable} (h : d.table.Extends reading t) (n : Nat) :
    Extends reading d { d with table := t, edgeCount := n } :=
  ⟨h, List.prefix_rfl, List.prefix_rfl, List.prefix_rfl, List.prefix_rfl⟩

theorem Extends.refl (h : d.table.WellFormed) : Extends reading d d :=
  .of_table (.of_symbols_eq h rfl) d.edgeCount

theorem extends_reportAll (h : d.table.WellFormed) (issues : List Issue) (file line : Nat) :
    Extends reading d (d.reportAll issues file line) :=
  ⟨.of_symbols_eq h rfl, List.prefix_rfl, List.prefix_rfl, List.prefix_rfl, List.prefix_append ..⟩

theorem extends_fresh (h : d.table.WellFormed) : Extends reading d d.fresh.1 :=
  .of_table h.extends_fresh d.edgeCount

theorem extends_modify (h : d.table.WellFormed) {f : Symbol → Symbol} (hf : Symbol.Keeps f)
    (hext : ∀ s ∈ d.table.symbols, s.id = id → s.Extends reading (f s)) :
    Extends reading d (d.modify id f) :=
  .of_table (h.extends_modify hf hext) d.edgeCount

theorem extends_declare (h : d.table.WellFormed) (kind : SymbolKind) (name : Text)
    (file line : Nat) : Extends reading d (d.declare kind name file line).1 := by
  have htable : Extends reading d { d with table := (d.table.declare kind name file line).table } :=
    .of_table (h.extends_declare kind name file line) d.edgeCount
  exact htable.trans (extends_reportAll htable.wellFormed _ file line)

theorem extends_addEdges (h : d.table.WellFormed) (edges : List (Nat × Edge)) :
    Extends reading d (d.addEdges edges) := by
  refine .of_table ?_ _
  have hrefl : d.table.Extends reading d.table := .of_symbols_eq h rfl
  refine h.addEdges_induction hrefl (fun hw ht id edge => ht.trans ?_) edges
  exact hw.extends_modify (SymbolTable.spares_addReference edge).toKeeps
    fun s _ _ => Symbol.extends_addReference edge s

theorem Collects.extends (hread : Collects file owner params d d') (h : d.table.WellFormed) :
    Extends reading d d' := by
  induction hread with
  | refl => exact .refl h
  | report hread issues line ih =>
    exact (ih h).trans (extends_reportAll (ih h).wellFormed issues file line)
  | resolve hread name line ih =>
    exact (ih h).trans (.of_table ((ih h).wellFormed.extends_resolve name file line) _)
  | parameter hread p hid hparent hresolves ih =>
    refine (ih h).trans ((extends_fresh (ih h).wellFormed).trans ?_)
    exact ⟨.of_symbols_eq (ih h).wellFormed.fresh rfl, List.prefix_rfl, List.prefix_rfl,
      List.prefix_append .., List.prefix_rfl⟩

theorem Collects.wellFormed (hread : Collects file owner params d d') (h : d.table.WellFormed) :
    d'.table.WellFormed := by
  have hext : Extends ∅ d d' := hread.extends h
  exact hext.wellFormed

theorem extends_storeProperty (h : d.table.WellFormed) (p : Member) :
    Extends reading d (d.storeProperty p) := by
  have hmodify : Extends reading d (d.modify p.parent (·.mapBody (·.addProperty p))) :=
    extends_modify h (Symbol.spares_addProperty p).toKeeps
      fun s _ _ => Symbol.extends_mapBody (Body.extends_addProperty p s.body)
  have hlist : Extends reading (d.modify p.parent (·.mapBody (·.addProperty p)))
      { d.modify p.parent (·.mapBody (·.addProperty p)) with
        properties := d.properties ++ [p] } :=
    ⟨.of_symbols_eq hmodify.wellFormed rfl, List.prefix_append .., List.prefix_rfl,
      List.prefix_rfl, List.prefix_rfl⟩
  exact (hmodify.trans hlist).trans (extends_addEdges hlist.wellFormed _)

theorem extends_storeMethod (h : d.table.WellFormed) (m : Method) :
    Extends reading d (d.storeMethod m) := by
  have hmodify : Extends reading d (d.modify m.parent (·.mapBody (·.addMethod m))) :=
    extends_modify h (Symbol.spares_addMethod m).toKeeps
      fun s _ _ => Symbol.extends_mapBody (Body.extends_addMethod m s.body)
  have hlist : Extends reading (d.modify m.parent (·.mapBody (·.addMethod m)))
      { d.modify m.parent (·.mapBody (·.addMethod m)) with methods := d.methods ++ [m] } :=
    ⟨.of_symbols_eq hmodify.wellFormed rfl, List.prefix_rfl, List.prefix_append ..,
      List.prefix_rfl, List.prefix_rfl⟩
  exact (hmodify.trans hlist).trans (extends_addEdges hlist.wellFormed _)

theorem extends_storeRoutine (h : d.table.WellFormed) {s : Symbol} (hs : s ∈ d.table.symbols)
    (hnone : s.routine? = none) (r : Routine) : Extends reading d (d.storeRoutine s.id r) := by
  have hmodify : Extends reading d (d.modify s.id (·.mapBody (·.setRoutine r))) := by
    refine extends_modify h (Symbol.keeps_mapBody (Body.kind_setRoutine r)) fun u hu hid => ?_
    rw [h.eq_of_id_eq hu hs hid]
    exact Symbol.extends_setRoutine hnone r
  exact hmodify.trans (extends_addEdges hmodify.wellFormed _)

/-- **A step extends a draft.** -/
theorem Step.extends (hstep : Step file d d') (h : d.table.WellFormed) (hfile : file ∈ reading) :
    Extends reading d d' := by
  cases hstep with
  | read hread => exact hread.extends h
  | declare hunknown hfunction name line => exact extends_declare h _ name file line
  | link id parent hne =>
    have hparent : Extends reading d (d.modify id ({ · with parent := some parent })) :=
      extends_modify h (Symbol.spares_setParent parent).toKeeps
        fun s _ _ => Symbol.extends_setParent (some parent) s
    exact hparent.trans (extends_modify hparent.wellFormed (Symbol.spares_addChild id).toKeeps
      fun s _ _ => Symbol.extends_addChild id s)
  | lastLine id line lastLine =>
    exact extends_modify h (Symbol.spares_setLastLine file line lastLine).toKeeps
      fun s _ _ => Symbol.extends_setLastLine hfile line lastLine s
  | property p hid hparent hresolves =>
    exact (extends_fresh h).trans (extends_storeProperty h.fresh p)
  | method d₁ m hid hparent hread hresolves =>
    have hcollected : Extends reading d d₁ := (extends_fresh h).trans (hread.extends h.fresh)
    exact hcollected.trans (extends_storeMethod hcollected.wellFormed m)
  | function d₁ name line s r hs hid hkind hnone hread hresolves =>
    have hdeclare : Extends reading d (d.declare .functionKind name file line).1 :=
      extends_declare h .functionKind name file line
    have hcollected := hdeclare.trans (hread.extends hdeclare.wellFormed)
    exact hcollected.trans
      (extends_storeRoutine hcollected.wellFormed (hread.symbols_subset hs) hnone r)
  | value value hid hparent =>
    exact (extends_fresh h).trans (extends_modify h.fresh (Symbol.spares_addValue value).toKeeps
      fun s _ _ => Symbol.extends_mapBody (Body.extends_addValue value s.body))
  | option option hparent hresolves =>
    exact extends_modify h (Symbol.keeps_mapBody (Body.kind_addOption option))
      fun s _ _ => Symbol.extends_mapBody (Body.extends_addOption option s.body)

/-! ### Declarations as steps -/

/-- A sequence of steps. -/
abbrev Steps (file : Nat) : Draft → Draft → Prop := ReflTransGen (Step file)

theorem Steps.extends (hsteps : Steps file d d') (h : d.table.WellFormed) (hfile : file ∈ reading) :
    Extends reading d d' := by
  induction hsteps with
  | refl => exact .refl h
  | tail _ hstep ih => exact ih.trans (hstep.extends ih.wellFormed hfile)

theorem Steps.wellFormed (hsteps : Steps file d d') (h : d.table.WellFormed) :
    d'.table.WellFormed :=
  (hsteps.extends h (Set.mem_univ file)).wellFormed

theorem Steps.holds (hsteps : Steps file d d') (h : d.table.WellFormed) (hk : kind ≠ .unknown)
    (hold : d.table.Holds id kind) : d'.table.Holds id kind :=
  (hsteps.extends h (Set.mem_univ file)).table.holds hk hold

/-- The parts of a block are entered by steps, into a symbol that keeps its kind. -/
theorem steps_foldl {α : Type} {enterPart : Draft → α → Draft} (h : d.table.WellFormed)
    (hold : d.table.Holds id kind) (hk : kind ≠ .unknown)
    (hpart : ∀ {d : Draft}, d.table.WellFormed → d.table.Holds id kind →
      ∀ a, Steps file d (enterPart d a))
    (parts : List α) : Steps file d (parts.foldl enterPart d) := by
  induction parts generalizing d with
  | nil => exact .refl
  | cons part parts ih =>
    have hone := hpart h hold part
    exact hone.trans (ih (hone.wellFormed h) (hone.holds h hk hold))

theorem Collects.steps (hread : Collects file owner [] d d') : Steps file d d' :=
  .single (.read hread)

theorem steps_reportAll (file : Nat) (d : Draft) (issues : List Issue) (line : Nat) :
    Steps file d (d.reportAll issues file line) := by
  have hread : Collects file 0 [] d (d.reportAll issues file line) :=
    (Collects.refl d).report issues line
  exact hread.steps

/-- A declaration of a kind other than a function's, with what it leads to. -/
theorem steps_declare (h : d.table.WellFormed) (kind : SymbolKind) (hunknown : kind ≠ .unknown)
    (hfunction : kind ≠ .functionKind) (name : Text) (file line : Nat) :
    Steps file d (d.declare kind name file line).1 ∧
      (d.declare kind name file line).1.table.WellFormed ∧
      (d.declare kind name file line).1.table.Holds (d.declare kind name file line).2 kind := by
  have hsteps : Steps file d (d.declare kind name file line).1 :=
    .single (.declare hunknown hfunction name line)
  exact ⟨hsteps, hsteps.wellFormed h, (enters_declare h kind hunknown name file line).2⟩

/-! Functions and methods. -/

theorem steps_enterMethodInto (v : Vocabulary) (file : Nat) (d : Draft) (m : MethodLine)
    {owner : Option Nat} (hold : ∀ id ∈ owner, d.table.Holds id .classKind) :
    Steps file d (d.enterMethodInto v file m owner) := by
  cases owner with
  | none => exact steps_reportAll file d [_] m.line
  | some owner =>
    obtain ⟨hread, hresolves⟩ :=
      collects_enterRoutine v file d.fresh.2 d.fresh.1 m.toFunctionLine
    simp only [enterMethodInto, trackRoutine_eq_addEdges]
    exact .single (.method _
      { id := d.fresh.2, parent := owner, name := m.name,
        routine := (d.fresh.1.enterRoutine v file d.fresh.2 m.toFunctionLine).2, file,
        line := m.line }
      rfl (hold owner rfl) hread hresolves)

theorem holds_of_mem_classNamed? {name : Text} {id : Nat} (h : id ∈ d.classNamed? name) :
    d.table.Holds id .classKind := by
  obtain ⟨s, hfind, rfl⟩ := Option.map_eq_some_iff.1 h
  obtain ⟨hs, -, hk⟩ := SymbolTable.mem_of_find?_eq_some hfind
  exact ⟨s, hs, rfl, hk⟩

theorem steps_enterMethod (v : Vocabulary) (file : Nat) (d : Draft) (m : MethodLine) :
    Steps file d (d.enterMethod v file m) :=
  steps_enterMethodInto v file d m fun _ hid => holds_of_mem_classNamed? hid

theorem steps_enterBlockMethod (v : Vocabulary) (file : Nat) (currentName : Text)
    (hold : d.table.Holds owner .classKind) (m : MethodLine) :
    Steps file d (d.enterBlockMethod v file owner currentName m) := by
  refine steps_enterMethodInto v file d m fun id hid => ?_
  split at hid
  · obtain rfl := Option.some_inj.1 hid
    exact hold
  · exact holds_of_mem_classNamed? hid

/-- A declaration that leads to a symbol with a routine changes no symbol. -/
theorem declare_of_routine (h : d.table.WellFormed) (name : Text) (file line : Nat) {s : Symbol}
    (hget : (d.declare .functionKind name file line).1.table.get?
      (d.declare .functionKind name file line).2 = some s)
    (hroutine : s.routine?.isSome) :
    (d.declare .functionKind name file line).1 = d.reportAll [] file line := by
  have hw : (d.declare .functionKind name file line).1.table.WellFormed := h.declare
  -- a symbol that was just made or promoted holds nothing
  have hnew {u : Symbol} (hu : u ∈ (d.declare .functionKind name file line).1.table.symbols)
      (hid : u.id = (d.declare .functionKind name file line).2)
      (hbody : u.body = .empty .functionKind) : False := by
    obtain ⟨hs, hsid⟩ := SymbolTable.mem_of_get?_eq_some hget
    rw [hw.eq_of_id_eq hs hu (hsid.trans hid.symm), Symbol.routine?, hbody] at hroutine
    cases hroutine
  unfold declare SymbolTable.declare at hnew ⊢
  cases hfind : d.table.find? name .functionKind with
  | some s => rfl
  | none =>
    rw [hfind] at hnew
    simp only [reduceCtorEq, ↓reduceIte] at hnew ⊢
    cases hu : d.table.find? name .unknown with
    | some u =>
      rw [hu] at hnew
      obtain ⟨hmem, -, -⟩ := SymbolTable.mem_of_find?_eq_some hu
      exact (hnew ((h.mem_symbols_promote hmem).2 (Or.inl rfl)) rfl rfl).elim
    | none =>
      rw [hu] at hnew
      exact (hnew (SymbolTable.mem_symbols_create.2 (Or.inr rfl)) rfl rfl).elim

theorem steps_enterFunction (v : Vocabulary) (file : Nat) (h : d.table.WellFormed) (name : Text)
    (f : FunctionLine) : Steps file d (d.enterFunction v file name f) := by
  obtain ⟨hdeclare, u, hu, huid, huk⟩ := enters_declare h .functionKind nofun name file f.line
  have hget : (d.declare .functionKind name file f.line).1.table.get?
      (d.declare .functionKind name file f.line).2 = some u :=
    hdeclare.wellFormed.get?_eq_some_iff.2 ⟨hu, huid⟩
  unfold enterFunction
  simp only [hget]
  split
  · rename_i hroutine
    rw [declare_of_routine h name file f.line hget hroutine]
    exact (steps_reportAll file d [] f.line).trans (steps_reportAll file _ [_] f.line)
  · rename_i hroutine
    have hnone : u.routine? = none := by simpa using hroutine
    rw [← huid]
    obtain ⟨hread, hresolves⟩ :=
      collects_enterRoutine v file u.id (d.declare .functionKind name file f.line).1 f
    rw [trackRoutine_eq_addEdges]
    exact .single (.function _ name f.line u _ hu huid huk hnone hread hresolves)

/-! Classes. -/

theorem steps_enterField (v : Vocabulary) (file : Nat) (ownerName : Text) (h : d.table.WellFormed)
    (hold : d.table.Holds owner .classKind) (f : FieldLine) :
    Steps file d (d.enterField v file owner ownerName f) := by
  unfold enterField
  split
  · exact steps_reportAll file d [_] f.line
  · rename_i type _
    have hread : Steps file d (d.readTagged v type f.optional file f.line).1 :=
      (collects_readTagged v owner d type f.optional file f.line).steps
    simp only [track_eq_addEdges]
    exact hread.tail (.property
      { id := (d.readTagged v type f.optional file f.line).1.fresh.2, kind := .property,
        parent := owner, name := f.name, rawType := type,
        signature := (d.readTagged v type f.optional file f.line).2, file, line := f.line }
      rfl (hread.holds h nofun hold) (resolves_readTagged v d type f.optional file f.line))

theorem steps_enterItem (v : Vocabulary) (file : Nat) (ownerName : Text) (h : d.table.WellFormed)
    (hold : d.table.Holds owner .classKind) (item : ClassItem) :
    Steps file d (d.enterItem v file owner ownerName item) := by
  cases item with
  | field f => exact steps_enterField v file ownerName h hold f
  | method m => exact steps_enterBlockMethod v file ownerName hold m

theorem steps_linkParent (d : Draft) (id parent : Nat) (name : Text) (file line : Nat) :
    Steps file d (d.linkParent id parent name file line) := by
  unfold linkParent
  split
  · exact steps_reportAll file d [_] line
  · rename_i hne
    exact .single (.link id parent hne)

/-- A class that is declared, linked or not, is filled with what stands in its block. -/
theorem steps_fillClass (v : Vocabulary) (h : d.table.WellFormed)
    (hold : d.table.Holds id .classKind) (name : Text) (file line lastLine : Nat)
    (items : List ClassItem) :
    Steps file d
      ((items.foldl (enterItem v file id name) d).setLastLine id file line lastLine) := by
  have hfilled : Steps file d (items.foldl (enterItem v file id name) d) :=
    steps_foldl h hold nofun (fun h hold item => steps_enterItem v file name h hold item) items
  exact hfilled.tail (.lastLine id line lastLine)

theorem steps_enterClass (v : Vocabulary) (file : Nat) (h : d.table.WellFormed)
    (line lastLine : Nat) (name : Text) (parent : Option Text) (items : List ClassItem) :
    Steps file d (d.enterClass v file line lastLine name parent items) := by
  cases parent with
  | none =>
    obtain ⟨hdeclare, hw, hold⟩ := steps_declare h .classKind nofun nofun name file line
    exact hdeclare.trans (steps_fillClass v hw hold name file line lastLine items)
  | some parent =>
    have hresolve : Steps file d (d.resolve parent file line).1 := by
      have hread : Collects file 0 [] d (d.resolve parent file line).1 :=
        (Collects.refl d).resolve parent line
      exact hread.steps
    obtain ⟨hdeclare, hw, hold⟩ :=
      steps_declare (hresolve.wellFormed h) .classKind nofun nofun name file line
    have hlink := steps_linkParent
      ((d.resolve parent file line).1.declare .classKind name file line).1
      ((d.resolve parent file line).1.declare .classKind name file line).2
      (d.resolve parent file line).2 name file line
    exact ((hresolve.trans hdeclare).trans hlink).trans (steps_fillClass v (hlink.wellFormed hw)
      (hlink.holds hw nofun hold) name file line lastLine items)

/-! Enumerations and aliases. -/

theorem steps_enterValue (file : Nat) (hold : d.table.Holds owner .enumKind) (e : EnumValue) :
    Steps file d (d.enterValue file owner e) :=
  .single (.value
    { id := d.fresh.2, kind := .enumValue, parent := owner, name := e.name,
      rawType := Literal.typeOfValue e.value, signature := .primitive (Literal.typeOfValue e.value),
      value := some e.value, file, line := e.line } rfl hold)

theorem steps_enterEnum (file : Nat) (h : d.table.WellFormed) (line lastLine : Nat) (name : Text)
    (values : List EnumValue) (ending : EnumEnd) :
    Steps file d (d.enterEnum file line lastLine name values ending) := by
  obtain ⟨hdeclare, hw, hold⟩ := steps_declare h .enumKind nofun nofun name file line
  have hvalues : Steps file (d.declare .enumKind name file line).1
      (values.foldl (enterValue file (d.declare .enumKind name file line).2)
        (d.declare .enumKind name file line).1) :=
    steps_foldl hw hold nofun (fun _ hold e => steps_enterValue file hold e) values
  have hreport := steps_reportAll file
    (values.foldl (enterValue file (d.declare .enumKind name file line).2)
      (d.declare .enumKind name file line).1) (endingIssue? name ending).toList line
  exact ((hdeclare.trans hvalues).trans hreport).tail (.lastLine _ line lastLine)

theorem steps_enterOption (v : Vocabulary) (file : Nat) (h : d.table.WellFormed)
    (hold : d.table.Holds owner .aliasKind) (option : Nat × OptionText) :
    Steps file d (d.enterOption v file owner option) := by
  match option with
  | (_, .literal text) =>
    exact .single (.option ⟨text, .primitive text⟩ hold (SymbolTable.resolves_primitive _ _))
  | (line, .type text) =>
    have hread : Steps file d (d.readType v text file line).1 :=
      (collects_readType v owner d text file line).steps
    exact hread.tail (.option ⟨text, (d.readType v text file line).2⟩ (hread.holds h nofun hold)
      (resolves_readType v d text file line))

theorem steps_enterAliasLine (v : Vocabulary) (file : Nat) (h : d.table.WellFormed) (line : Nat)
    (name target : Text) : Steps file d (d.enterAliasLine v file line name target) := by
  obtain ⟨hdeclare, hw, hold⟩ := steps_declare h .aliasKind nofun nofun name file line
  unfold enterAliasLine
  simp only
  split
  · exact hdeclare.trans (steps_reportAll file _ [_] line)
  · exact hdeclare.trans (steps_enterOption v file hw hold _)

theorem steps_enterAliasBlock (v : Vocabulary) (file : Nat) (h : d.table.WellFormed)
    (line lastLine : Nat) (name : Text) (options : List (Nat × OptionText)) :
    Steps file d (d.enterAliasBlock v file line lastLine name options) := by
  obtain ⟨hdeclare, hw, hold⟩ := steps_declare h .aliasKind nofun nofun name file line
  have hfilled := hdeclare.trans (steps_foldl hw hold nofun
    (fun h hold option => steps_enterOption v file h hold option) options)
  unfold enterAliasBlock
  simp only
  split
  · exact (hfilled.trans (steps_reportAll file _ [_] line)).tail (.lastLine _ line lastLine)
  · exact hfilled.tail (.lastLine _ line lastLine)

/-- **Every declaration is entered by steps.** -/
theorem steps_enter (v : Vocabulary) (file : Nat) (h : d.table.WellFormed) (x : Declaration) :
    Steps file d (d.enter v file x) := by
  cases x with
  | classDecl line lastLine name parent items =>
    exact steps_enterClass v file h line lastLine name parent items
  | enumDecl line lastLine name values ending =>
    exact steps_enterEnum file h line lastLine name values ending
  | aliasLine line name target => exact steps_enterAliasLine v file h line name target
  | aliasBlock line lastLine name options =>
    exact steps_enterAliasBlock v file h line lastLine name options
  | methodDecl m => exact steps_enterMethod v file d m
  | functionDecl name f => exact steps_enterFunction v file h name f

theorem steps_enterFile (v : Vocabulary) (file : Nat) (h : d.table.WellFormed)
    (lines : List Text) : Steps file d (d.enterFile v file lines) := by
  unfold enterFile
  generalize Declaration.ofLines lines = declarations
  induction declarations generalizing d with
  | nil => exact .refl
  | cons x declarations ih =>
    have hone := steps_enter v file h x
    exact hone.trans (ih (hone.wellFormed h))

/-! ### Files -/

/-- Files are entered by steps, so they extend a draft while they are read. -/
theorem extends_enterFiles (v : Vocabulary) (first : Nat) (h : d.table.WellFormed)
    (files : List (List Text)) (hreading : ∀ i, first ≤ i → i ∈ reading) :
    Extends reading d (d.enterFiles v first files) := by
  induction files generalizing d first with
  | nil => exact .refl h
  | cons lines rest ih =>
    have hone := (steps_enterFile v first h lines).extends h (hreading first (Nat.le_refl _))
    exact hone.trans (ih (first + 1) hone.wellFormed fun i hi => hreading i (by omega))

/-- **Induction over steps**: what holds of the empty draft and passes through every step holds of
the draft of any files. -/
theorem draftOf_induction (v : Vocabulary) {P : Draft → Prop} (hempty : P {})
    (hstep : ∀ {file : Nat} {d d' : Draft}, d.table.WellFormed → P d → Step file d d' → P d')
    (files : List (List Text)) : P (Catalog.draftOf v files) := by
  have hsteps {file : Nat} {d d' : Draft} (h : d.table.WellFormed) (hp : P d)
      (hs : Steps file d d') : P d' := by
    induction hs with
    | refl => exact hp
    | tail hs hone ih => exact hstep (Steps.wellFormed hs h) ih hone
  have hfiles (first : Nat) {d : Draft} (h : d.table.WellFormed) (hp : P d) :
      P (d.enterFiles v first files) := by
    induction files generalizing d first with
    | nil => exact hp
    | cons lines rest ih =>
      have hone := steps_enterFile v first h lines
      exact ih (first + 1) (hone.wellFormed h) (hsteps h hp hone)
  exact hfiles 0 SymbolTable.wellFormed_empty hempty

end LuaAtlas.Draft
