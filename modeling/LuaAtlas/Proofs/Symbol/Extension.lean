import LuaAtlas.Proofs.Symbol.Growth
import LuaAtlas.Proofs.Symbol.Index

/-!
# What later operations leave alone

A symbol changes in few ways after it was made: an unknown one gets a kind and a place once, and
lists of edges, children and members get longer at their end.  `Symbol.Extends` says so for one
symbol and `SymbolTable.Extends` for a table, whose symbols keep their order while new ones come
last.  Both compose, and every operation on a table extends it (`WellFormed.extends_apply`).

It follows that a name never moves from one symbol to another (`Extends.lookup?_eq_some`), since in
a table in order a name stands for the first symbol that has it (`WellFormed.lookup?_eq_head?`).
`run_append_stable` puts this together for runs of operations.

The last line of a symbol is an exception: it is known only when the block of the symbol has been
read.  So `Extends` has the files that are being read as a parameter, and only symbols of these
files may get another last line.
-/

namespace LuaAtlas

/-! ### Bodies -/

/-- **How a body may change.**  An unknown symbol may get any body, members are added behind those
that are there, and what was read of a function stays. -/
inductive Body.Extends : Body → Body → Prop
  | unknown (body : Body) : Extends .unknown body
  | classBody {properties properties' : List Member} {methods methods' : List Method}
      (hproperties : properties <+: properties') (hmethods : methods <+: methods') :
      Extends (.classBody properties methods) (.classBody properties' methods')
  | enumBody {values values' : List Member} (h : values <+: values') :
      Extends (.enumBody values) (.enumBody values')
  | aliasBody {options options' : List AliasOption} (h : options <+: options') :
      Extends (.aliasBody options) (.aliasBody options')
  | functionBody {routine routine' : Option Routine}
      (h : ∀ r, routine = some r → routine' = some r) :
      Extends (.functionBody routine) (.functionBody routine')

namespace Body

theorem Extends.refl (body : Body) : body.Extends body := by
  cases body with
  | unknown => exact .unknown _
  | classBody properties methods => exact .classBody List.prefix_rfl List.prefix_rfl
  | enumBody values => exact .enumBody List.prefix_rfl
  | aliasBody options => exact .aliasBody List.prefix_rfl
  | functionBody routine => exact .functionBody fun _ h => h

theorem Extends.trans {a b c : Body} (h : a.Extends b) (h' : b.Extends c) : a.Extends c := by
  cases h with
  | unknown => exact .unknown c
  | classBody hp hm =>
    cases h' with
    | classBody hp' hm' => exact .classBody (hp.trans hp') (hm.trans hm')
  | enumBody hv =>
    cases h' with
    | enumBody hv' => exact .enumBody (hv.trans hv')
  | aliasBody ho =>
    cases h' with
    | aliasBody ho' => exact .aliasBody (ho.trans ho')
  | functionBody hr =>
    cases h' with
    | functionBody hr' => exact .functionBody fun r he => hr' r (hr r he)

/-- A kind that was declared stays. -/
theorem Extends.kind_eq {a b : Body} (h : a.Extends b) (hk : a.kind ≠ .unknown) :
    b.kind = a.kind := by
  cases h with
  | unknown => exact absurd rfl hk
  | _ => rfl

theorem extends_addProperty (p : Member) (body : Body) : body.Extends (body.addProperty p) := by
  cases body with
  | classBody properties methods => exact .classBody (List.prefix_append ..) List.prefix_rfl
  | _ => exact .refl _

theorem extends_addMethod (m : Method) (body : Body) : body.Extends (body.addMethod m) := by
  cases body with
  | classBody properties methods => exact .classBody List.prefix_rfl (List.prefix_append ..)
  | _ => exact .refl _

theorem extends_addValue (value : Member) (body : Body) : body.Extends (body.addValue value) := by
  cases body with
  | enumBody values => exact .enumBody (List.prefix_append ..)
  | _ => exact .refl _

theorem extends_addOption (option : AliasOption) (body : Body) :
    body.Extends (body.addOption option) := by
  cases body with
  | aliasBody options => exact .aliasBody (List.prefix_append ..)
  | _ => exact .refl _

end Body

/-! ### Symbols -/

/-- **How a symbol may change** while the given files are read.  Number and name stay; edges and
children are added behind those that are there.  A declared symbol keeps its kind and its place, and
it keeps its last line unless its own file is being read. -/
structure Symbol.Extends (reading : Set Nat) (s s' : Symbol) : Prop where
  id : s'.id = s.id
  name : s'.name = s.name
  references : s.references <+: s'.references
  children : s.children <+: s'.children
  file : s.kind ≠ .unknown → s'.file = s.file
  firstLine : s.kind ≠ .unknown → s'.firstLine = s.firstLine
  lastLine : s.kind ≠ .unknown → s.file ∉ reading → s'.lastLine = s.lastLine
  body : s.body.Extends s'.body

namespace Symbol

variable {reading : Set Nat} {s s' s'' : Symbol}

theorem Extends.refl (s : Symbol) : s.Extends reading s :=
  ⟨rfl, rfl, List.prefix_rfl, List.prefix_rfl, fun _ => rfl, fun _ => rfl, fun _ _ => rfl, .refl _⟩

theorem Extends.kind (h : s.Extends reading s') (hk : s.kind ≠ .unknown) : s'.kind = s.kind :=
  h.body.kind_eq hk

theorem Extends.trans (h : s.Extends reading s') (h' : s'.Extends reading s'') :
    s.Extends reading s'' := by
  have hk' (hk : s.kind ≠ .unknown) : s'.kind ≠ .unknown := by
    rw [h.kind hk]
    exact hk
  refine ⟨h'.id.trans h.id, h'.name.trans h.name, h.references.trans h'.references,
    h.children.trans h'.children, fun hk => ?_, fun hk => ?_, fun hk hfile => ?_,
    h.body.trans h'.body⟩
  · rw [h'.file (hk' hk), h.file hk]
  · rw [h'.firstLine (hk' hk), h.firstLine hk]
  · have hfile' : s'.file ∉ reading := by
      rw [h.file hk]
      exact hfile
    rw [h'.lastLine (hk' hk) hfile', h.lastLine hk hfile]

/-- A change of the body alone. -/
theorem extends_mapBody {g : Body → Body} (h : s.body.Extends (g s.body)) :
    s.Extends reading (s.mapBody g) :=
  ⟨rfl, rfl, List.prefix_rfl, List.prefix_rfl, fun _ => rfl, fun _ => rfl, fun _ _ => rfl, h⟩

theorem extends_setRoutine (h : s.routine? = none) (r : Routine) :
    s.Extends reading (s.mapBody (·.setRoutine r)) := by
  apply extends_mapBody
  cases hbody : s.body with
  | functionBody routine =>
    rw [routine?, hbody] at h
    -- nothing was known of the function, so nothing is lost
    subst h
    refine .functionBody fun r hr => ?_
    cases hr
  | _ => exact .refl _

theorem extends_addReference (edge : Edge) (s : Symbol) :
    s.Extends reading (s.addReference edge) := by
  unfold addReference
  split
  · exact .refl s
  · exact ⟨rfl, rfl, List.prefix_append .., List.prefix_rfl, fun _ => rfl, fun _ => rfl,
      fun _ _ => rfl, .refl _⟩

theorem extends_setParent (parent : Option Nat) (s : Symbol) :
    s.Extends reading { s with parent } :=
  ⟨rfl, rfl, List.prefix_rfl, List.prefix_rfl, fun _ => rfl, fun _ => rfl, fun _ _ => rfl, .refl _⟩

theorem extends_addChild (child : Nat) (s : Symbol) : s.Extends reading (s.addChild child) := by
  unfold addChild
  split
  · exact .refl s
  · exact ⟨rfl, rfl, List.prefix_rfl, List.prefix_append .., fun _ => rfl, fun _ => rfl,
      fun _ _ => rfl, .refl _⟩

/-- The last line is set in the file that is being read. -/
theorem extends_setLastLine {file : Nat} (hfile : file ∈ reading) (line lastLine : Nat)
    (s : Symbol) :
    s.Extends reading (if s.isDeclaredAt file line then { s with lastLine } else s) := by
  split
  · rename_i hdeclared
    have heq : s.file = file := by
      simp only [isDeclaredAt, Bool.and_eq_true, beq_iff_eq] at hdeclared
      exact hdeclared.1
    refine ⟨rfl, rfl, List.prefix_rfl, List.prefix_rfl, fun _ => rfl, fun _ => rfl,
      fun _ hnot => ?_, .refl _⟩
    rw [heq] at hnot
    exact absurd hfile hnot
  · exact .refl s

/-- An unknown symbol may get any kind. -/
theorem extends_promoted (hk : s.kind = .unknown) (kind : SymbolKind) (file line : Nat) :
    s.Extends reading (SymbolTable.promoted s kind file line) := by
  have hbody : s.body.Extends (.empty kind) := by
    unfold Symbol.kind at hk
    cases hb : s.body with
    | unknown => exact .unknown _
    | _ => rw [hb] at hk; cases hk
  exact ⟨rfl, rfl, List.prefix_rfl, List.prefix_rfl, fun h => absurd hk h, fun h => absurd hk h,
    fun h => absurd hk h, hbody⟩

/-! What a symbol holds, by its kind. -/

theorem Extends.properties (h : s.Extends reading s') : s.properties <+: s'.properties := by
  have hbody := h.body
  unfold Symbol.properties
  generalize s.body = b at hbody
  generalize s'.body = b' at hbody
  cases hbody with
  | unknown => exact List.nil_prefix
  | classBody hp hm => exact hp
  | _ => exact List.prefix_rfl

theorem Extends.methods (h : s.Extends reading s') : s.methods <+: s'.methods := by
  have hbody := h.body
  unfold Symbol.methods
  generalize s.body = b at hbody
  generalize s'.body = b' at hbody
  cases hbody with
  | unknown => exact List.nil_prefix
  | classBody hp hm => exact hm
  | _ => exact List.prefix_rfl

theorem Extends.values (h : s.Extends reading s') : s.values <+: s'.values := by
  have hbody := h.body
  unfold Symbol.values
  generalize s.body = b at hbody
  generalize s'.body = b' at hbody
  cases hbody with
  | unknown => exact List.nil_prefix
  | enumBody hv => exact hv
  | _ => exact List.prefix_rfl

theorem Extends.options (h : s.Extends reading s') : s.options <+: s'.options := by
  have hbody := h.body
  unfold Symbol.options
  generalize s.body = b at hbody
  generalize s'.body = b' at hbody
  cases hbody with
  | unknown => exact List.nil_prefix
  | aliasBody ho => exact ho
  | _ => exact List.prefix_rfl

theorem Extends.routine? (h : s.Extends reading s') {r : Routine} (hr : s.routine? = some r) :
    s'.routine? = some r := by
  have hbody := h.body
  unfold Symbol.routine? at hr ⊢
  generalize s.body = b at hbody hr
  generalize s'.body = b' at hbody
  cases hbody with
  | functionBody hkeep => exact hkeep r hr
  | _ => cases hr

end Symbol

/-! ### Tables -/

namespace SymbolTable

variable {reading : Set Nat} {t t' t'' : SymbolTable} {kind : SymbolKind} {name : Text}
  {file line id : Nat} {s : Symbol}

/-- **How a table may change** while the given files are read: every symbol keeps its position and
is extended; new symbols come behind. -/
structure Extends (reading : Set Nat) (t t' : SymbolTable) : Prop where
  wellFormed : t'.WellFormed
  symbols : ∀ (i : Nat) (s : Symbol), t.symbols[i]? = some s →
    ∃ s', t'.symbols[i]? = some s' ∧ s.Extends reading s'

theorem Extends.of_symbols_eq (h : t'.WellFormed) (hs : t'.symbols = t.symbols) :
    Extends reading t t' := by
  refine ⟨h, fun i s hi => ⟨s, ?_, .refl s⟩⟩
  rw [hs]
  exact hi

theorem Extends.trans (h : Extends reading t t') (h' : Extends reading t' t'') :
    Extends reading t t'' := by
  refine ⟨h'.wellFormed, fun i s hi => ?_⟩
  obtain ⟨s', hi', hs⟩ := h.symbols i s hi
  obtain ⟨s'', hi'', hs'⟩ := h'.symbols i s' hi'
  exact ⟨s'', hi'', hs.trans hs'⟩

theorem Extends.exists_mem (h : Extends reading t t') (hs : s ∈ t.symbols) :
    ∃ s' ∈ t'.symbols, s.Extends reading s' := by
  obtain ⟨i, hi⟩ := List.mem_iff_getElem?.1 hs
  obtain ⟨s', hi', hext⟩ := h.symbols i s hi
  exact ⟨s', List.mem_of_getElem? hi', hext⟩

theorem Extends.holds (h : Extends reading t t') (hk : kind ≠ .unknown) (hold : t.Holds id kind) :
    t'.Holds id kind := by
  obtain ⟨s, hs, rfl, rfl⟩ := hold
  obtain ⟨s', hs', hext⟩ := h.exists_mem hs
  exact ⟨s', hs', hext.id, hext.kind hk⟩

/-! ### Names -/

/-- In a table in order a name stands for the first symbol that has it: an unknown symbol has no
other beside it. -/
theorem WellFormed.lookup?_eq_head? (h : t.WellFormed) (name : Text) :
    t.lookup? name = (t.named name).head? := by
  unfold lookup?
  cases hnamed : t.named name with
  | nil => rfl
  | cons s rest =>
    by_cases hk : s.kind = .unknown
    · have halone : ∀ u ∈ s :: rest, u.kind = .unknown := by
        intro u hu
        have hs : s ∈ t.named name := hnamed ▸ List.mem_cons_self ..
        have hu' : u ∈ t.named name := hnamed ▸ hu
        simp only [named, List.mem_filter, beq_iff_eq] at hs hu'
        rw [← h.alone s hs.1 u hu'.1 (hs.2.trans hu'.2.symm) hk]
        exact hk
      have hnone : (s :: rest).find? (·.kind != .unknown) = none := by
        rw [List.find?_eq_none]
        intro u hu
        simp [halone u hu]
      rw [hnone]
      rfl
    · have hfirst : (s :: rest).find? (·.kind != .unknown) = some s := by
        rw [List.find?_cons_of_pos (by simpa using hk)]
      rw [hfirst]
      rfl

theorem WellFormed.lookup?_eq_find? (h : t.WellFormed) (name : Text) :
    t.lookup? name = t.symbols.find? (·.name == name) := by
  rw [h.lookup?_eq_head?, named, List.head?_filter]

/-- **A name never moves**: it goes on standing for the symbol that it stood for, however that was
extended. -/
theorem Extends.lookup?_eq_some (h : Extends reading t t') (hw : t.WellFormed)
    (hl : t.lookup? name = some s) :
    ∃ s', t'.lookup? name = some s' ∧ s.Extends reading s' := by
  rw [hw.lookup?_eq_find?, List.find?_eq_some_iff_getElem] at hl
  obtain ⟨hname, i, hi, hs, hbefore⟩ := hl
  obtain ⟨s', hi', hext⟩ := h.symbols i s (by rw [List.getElem?_eq_getElem hi, hs])
  obtain ⟨hlt, hs'⟩ := List.getElem?_eq_some_iff.1 hi'
  refine ⟨s', ?_, hext⟩
  rw [h.wellFormed.lookup?_eq_find?, List.find?_eq_some_iff_getElem]
  refine ⟨by rw [hext.name]; exact hname, i, hlt, hs', fun j hj => ?_⟩
  -- the symbols in front keep their names too, and none of them has this one
  have hj' : j < t.symbols.length := Nat.lt_trans hj hi
  obtain ⟨u', hu', hextu⟩ := h.symbols j t.symbols[j] (List.getElem?_eq_getElem hj')
  obtain ⟨hltj, hu'⟩ := List.getElem?_eq_some_iff.1 hu'
  rw [hu', hextu.name]
  exact hbefore j hj

/-! ### Operations -/

theorem WellFormed.extends_fresh (h : t.WellFormed) : Extends reading t t.fresh.1 :=
  .of_symbols_eq h.fresh rfl

/-- A new symbol comes behind the others. -/
theorem Extends.create (hw : (t.create kind name file line).1.WellFormed) :
    Extends reading t (t.create kind name file line).1 := by
  refine ⟨hw, fun i s hi => ⟨s, ?_, .refl s⟩⟩
  obtain ⟨hlt, -⟩ := List.getElem?_eq_some_iff.1 hi
  rw [symbols_create, List.getElem?_append_left hlt]
  exact hi

/-- A change of one symbol that extends it. -/
theorem Extends.modify {f : Symbol → Symbol} (hw : (t.modify id f).WellFormed)
    (hf : ∀ s ∈ t.symbols, s.id = id → s.Extends reading (f s)) :
    Extends reading t (t.modify id f) := by
  refine ⟨hw, fun i s hi => ?_⟩
  have hs : s ∈ t.symbols := List.mem_of_getElem? hi
  refine ⟨if s.id == id then f s else s, ?_, ?_⟩
  · rw [SymbolTable.modify, List.getElem?_map, hi]
    rfl
  · split
    · rename_i hid
      exact hf s hs (beq_iff_eq.1 hid)
    · exact .refl s

/-- A change that keeps what a symbol was declared as leaves the table in order. -/
theorem WellFormed.modify_of_keeps (h : t.WellFormed) {f : Symbol → Symbol} (hf : Symbol.Keeps f)
    (id : Nat) : (t.modify id f).WellFormed :=
  h.modify hf.id hf.name (fun s _ _ => Or.inr (hf.kind s))
    fun s hs _ => hf.nodup s (h.references_nodup s hs)

theorem WellFormed.extends_modify (h : t.WellFormed) {f : Symbol → Symbol} (hf : Symbol.Keeps f)
    (hext : ∀ s ∈ t.symbols, s.id = id → s.Extends reading (f s)) :
    Extends reading t (t.modify id f) :=
  .modify (h.modify_of_keeps hf id) hext

theorem WellFormed.extends_resolve (h : t.WellFormed) (name : Text) (file line : Nat) :
    Extends reading t (t.resolve name file line).1 := by
  have hw : (t.resolve name file line).1.WellFormed := h.resolve
  unfold SymbolTable.resolve at hw ⊢
  split at hw
  · exact .of_symbols_eq hw rfl
  · exact .create hw

theorem WellFormed.extends_resolveAll (h : t.WellFormed) (names : List Text) (file line : Nat) :
    Extends reading t (t.resolveAll names file line) := by
  induction names generalizing t with
  | nil => exact .of_symbols_eq h rfl
  | cons name names ih =>
    have hone : Extends reading t (t.resolve name file line).1 := h.extends_resolve name file line
    exact hone.trans (ih hone.wellFormed)

/-- **A declaration extends a table**, whether it finds the symbol, promotes it or makes it. -/
theorem WellFormed.extends_declare (h : t.WellFormed) (kind : SymbolKind) (name : Text)
    (file line : Nat) : Extends reading t (t.declare kind name file line).table := by
  have hw : (t.declare kind name file line).table.WellFormed := h.declare
  unfold SymbolTable.declare at hw ⊢
  split at hw
  · exact .of_symbols_eq hw rfl
  · split at hw
    · rename_i hk
      simp only [hk, ↓reduceIte]
      exact h.extends_resolve name file line
    · rename_i hk
      simp only [hk, ↓reduceIte]
      split at hw
      · rename_i s hu
        obtain ⟨hs, -, hsk⟩ := mem_of_find?_eq_some hu
        refine .modify hw fun u hu' hid => ?_
        obtain rfl := h.eq_of_id_eq hu' hs hid
        exact Symbol.extends_promoted hsk kind file line
      · exact .create hw

theorem WellFormed.extends_addReference (h : t.WellFormed) (id : Nat) (edge : Edge) :
    Extends reading t (t.addReference id edge).1 := by
  rw [h.addReference_eq]
  exact h.extends_modify (spares_addReference edge).toKeeps
    fun s _ _ => Symbol.extends_addReference edge s

/-! ### Runs -/

/-- **One operation extends a table.** -/
theorem WellFormed.extends_apply (h : t.WellFormed) (op : Operation) :
    Extends reading t (t.apply op) := by
  cases op with
  | declare kind name file line edge =>
    have hdeclare : Extends reading t (t.declare kind name file line).table :=
      h.extends_declare kind name file line
    cases edge with
    | none => exact hdeclare
    | some edge => exact hdeclare.trans (hdeclare.wellFormed.extends_addReference _ edge)
  | resolve name file line => exact h.extends_resolve name file line
  | fresh => exact h.extends_fresh
  | addReference id edge => exact h.extends_addReference id edge
  | readType v type file line =>
    show Extends reading t (Draft.readType v { table := t } type file line).1.table
    rw [Draft.table_readType]
    exact h.extends_resolveAll _ file line

theorem WellFormed.extends_foldl_apply (h : t.WellFormed) (ops : List Operation) :
    Extends reading t (ops.foldl apply t) := by
  induction ops generalizing t with
  | nil => exact .of_symbols_eq h rfl
  | cons op ops ih =>
    have hone : Extends reading t (t.apply op) := h.extends_apply op
    exact hone.trans (ih hone.wellFormed)

theorem wellFormed_run (ops : List Operation) : (run ops).WellFormed := by
  have hext : Extends ∅ {} (run ops) := wellFormed_empty.extends_foldl_apply ops
  exact hext.wellFormed

theorem extends_run_append (ops later : List Operation) :
    Extends reading (run ops) (run (ops ++ later)) := by
  unfold run
  rw [List.foldl_append]
  exact (wellFormed_run ops).extends_foldl_apply later

/-- **What holds of all later states of a run.**  A name that stands for a symbol stands for the
symbol with the same number from then on, also when it is used again.  Every symbol keeps its number
and name, and a declared one its kind and its place.  The edges on a symbol are the first of its
later edges. -/
theorem run_append_stable (ops later : List Operation) :
    let t := run ops
    let t' := run (ops ++ later)
    (∀ name s, t.lookup? name = some s →
        (∃ s', t'.lookup? name = some s' ∧ s'.id = s.id) ∧
        ∀ file line, t'.resolve name file line = (t', s.id)) ∧
      ∀ id s, t.get? id = some s → ∃ s', t'.get? id = some s' ∧
        s'.id = s.id ∧ s'.name = s.name ∧ s.references <+: s'.references ∧
        (s.kind ≠ .unknown →
          s'.kind = s.kind ∧ s'.file = s.file ∧ s'.firstLine = s.firstLine) := by
  intro t t'
  have hw : t.WellFormed := wellFormed_run ops
  have hext : Extends ∅ t t' := extends_run_append ops later
  constructor
  · intro name s hl
    obtain ⟨s', hl', hs⟩ := hext.lookup?_eq_some hw hl
    refine ⟨⟨s', hl', hs.id⟩, fun file line => ?_⟩
    rw [SymbolTable.resolve, hl', ← hs.id]
  · intro id s hget
    obtain ⟨hmem, rfl⟩ := mem_of_get?_eq_some hget
    obtain ⟨s', hmem', hs⟩ := hext.exists_mem hmem
    refine ⟨s', hext.wellFormed.get?_eq_some_iff.2 ⟨hmem', hs.id⟩, hs.id, hs.name, hs.references,
      fun hk => ⟨hs.kind hk, hs.file hk, hs.firstLine hk⟩⟩

end SymbolTable

end LuaAtlas
