import LuaAtlas.Proofs.Symbol.Extension
import LuaAtlas.Proofs.Symbol.Holding
import LuaAtlas.Proofs.TypeExpr.Nested

/-!
# What is known of symbols, apart from numbers

Numbers are given in the order in which things are met, so they say nothing about what was declared.
An `Outline` is an entry of a symbol, or an option of an alias, without its number; only the types
in it have mentions, of whatever sort.  `Symbol.facts` lists what is known of a symbol under its
name: its last line if it is declared on several, its parent, and its outlines.

Facts are only ever added.  Making, using and declaring symbols adds none (`facts_resolve`,
`WellFormed.facts_declare`), nor do edges (`WellFormed.facts_addEdges`); a change of one symbol adds
what that symbol gets (`WellFormed.facts_modify_append`).
-/

namespace LuaAtlas

/-! ### Outlines -/

/-- A property, a parameter or a value without its numbers. -/
structure MemberOutline (ρ : Type) where
  kind : MemberKind
  name : Text
  rawType : Text
  type : TypeNode ρ
  value : Option Text := none
  file : Nat
  line : Nat

/-- What is known of a function, without numbers. -/
structure RoutineOutline (ρ : Type) where
  params : List (MemberOutline ρ)
  returns : TypeNode ρ
  extraReturns : List (TypeNode ρ)
  declaration : Text
  description : Text

/-- What belongs to a symbol, without numbers. -/
inductive Outline (ρ : Type) where
  | property (property : MemberOutline ρ)
  | method (name : Text) (routine : RoutineOutline ρ) (file line : Nat)
  /-- A value of an enumeration. -/
  | value (value : MemberOutline ρ)
  /-- One of the types that an alias stands for. -/
  | option (text : Text) (type : TypeNode ρ)
  /-- What is known of a global function. -/
  | routine (routine : RoutineOutline ρ)

variable {ρ σ τ : Type}

/-- The same member with other mentions and in another file. -/
def MemberOutline.map (f : ρ → σ) (move : Nat → Nat) (m : MemberOutline ρ) : MemberOutline σ :=
  { kind := m.kind, name := m.name, rawType := m.rawType, type := m.type.mapRefs f,
    value := m.value, file := move m.file, line := m.line }

namespace RoutineOutline

/-- The same function with other mentions and in another file. -/
def map (f : ρ → σ) (move : Nat → Nat) (r : RoutineOutline ρ) : RoutineOutline σ :=
  { params := r.params.map (·.map f move), returns := r.returns.mapRefs f,
    extraReturns := r.extraReturns.map (·.mapRefs f), declaration := r.declaration,
    description := r.description }

/-- The types of the return values. -/
def results (r : RoutineOutline ρ) : List (TypeNode ρ) := r.returns :: r.extraReturns

/-- The types of a function. -/
def types (r : RoutineOutline ρ) : List (TypeNode ρ) := r.params.map (·.type) ++ r.results

end RoutineOutline

namespace Outline

/-- The same outline with other mentions and in another file. -/
def map (f : ρ → σ) (move : Nat → Nat) : Outline ρ → Outline σ
  | property p => property (p.map f move)
  | method name r file line => method name (r.map f move) (move file) line
  | value e => value (e.map f move)
  | option text type => option text (type.mapRefs f)
  | routine r => routine (r.map f move)

/-- The types in an outline. -/
def types : Outline ρ → List (TypeNode ρ)
  | property p => [p.type]
  | method _ r _ _ => r.types
  | value e => [e.type]
  | option _ type => [type]
  | routine r => r.types

end Outline

theorem MemberOutline.map_map (f : ρ → σ) (g : σ → τ) (move move' : Nat → Nat)
    (m : MemberOutline ρ) : (m.map f move).map g move' = m.map (g ∘ f) (move' ∘ move) := by
  simp only [map, TypeNode.mapRefs_mapRefs, Function.comp_apply]

theorem RoutineOutline.map_map (f : ρ → σ) (g : σ → τ) (move move' : Nat → Nat)
    (r : RoutineOutline ρ) : (r.map f move).map g move' = r.map (g ∘ f) (move' ∘ move) := by
  have hparams : (MemberOutline.map g move') ∘ (MemberOutline.map f move) =
      MemberOutline.map (g ∘ f) (move' ∘ move) :=
    funext (MemberOutline.map_map f g move move')
  have htypes : (TypeNode.mapRefs g) ∘ (TypeNode.mapRefs f) = TypeNode.mapRefs (g ∘ f) :=
    funext (TypeNode.mapRefs_mapRefs f g)
  simp only [map, List.map_map, TypeNode.mapRefs_mapRefs, hparams, htypes]

theorem Outline.map_map (f : ρ → σ) (g : σ → τ) (move move' : Nat → Nat) (o : Outline ρ) :
    (o.map f move).map g move' = o.map (g ∘ f) (move' ∘ move) := by
  cases o with
  | property p => rw [map, map, map, MemberOutline.map_map]
  | method name r file line => rw [map, map, map, RoutineOutline.map_map, Function.comp_apply]
  | value e => rw [map, map, map, MemberOutline.map_map]
  | option text type => rw [map, map, map, TypeNode.mapRefs_mapRefs]
  | routine r => rw [map, map, map, RoutineOutline.map_map]

theorem Outline.types_map (f : ρ → σ) (move : Nat → Nat) (o : Outline ρ) :
    (o.map f move).types = o.types.map (·.mapRefs f) := by
  have hroutine (r : RoutineOutline ρ) : (r.map f move).types = r.types.map (·.mapRefs f) := by
    simp only [RoutineOutline.types, RoutineOutline.results, RoutineOutline.map, List.map_append,
      List.map_map, List.map_cons]
    rfl
  cases o with
  | property p => rfl
  | method name r file line => exact hroutine r
  | value e => rfl
  | option text type => rfl
  | routine r => exact hroutine r

/-! ### Outlines of what was entered -/

/-- A member without its numbers. -/
def Member.outline (m : Member) : MemberOutline Reference :=
  { kind := m.kind, name := m.name, rawType := m.rawType, type := m.signature, value := m.value,
    file := m.file, line := m.line }

/-- What is known of a function, without numbers. -/
def Routine.outline (r : Routine) : RoutineOutline Reference :=
  { params := r.params.map (·.outline), returns := r.returns, extraReturns := r.extraReturns,
    declaration := r.declaration, description := r.description }

/-- A method without its numbers. -/
def Method.outline (m : Method) : Outline Reference :=
  .method m.name m.routine.outline m.file m.line

/-- An option of an alias. -/
def AliasOption.outline (o : AliasOption) : Outline Reference := .option o.text o.signature

/-- An entry without its numbers. -/
def Entry.outline : Entry → Outline Reference
  | property p => .property p.outline
  | method m => m.outline
  | value e => .value e.outline
  | routine r => .routine r.outline

theorem Routine.types_outline (r : Routine) :
    r.outline.types = r.params.map (·.signature) ++ r.allReturns := by
  simp only [RoutineOutline.types, RoutineOutline.results, outline, List.map_map]
  rfl

namespace Symbol

variable {s : Symbol}

/-- **What belongs to a symbol, without numbers.** -/
def outlines (s : Symbol) : List (Outline Reference) :=
  s.entries.map Entry.outline ++ s.options.map AliasOption.outline

theorem content_outlines : Content Symbol.outlines where
  congr {s u} he := by rw [outlines, outlines, content_entries.congr he, options, options, he]
  empty {s kind} he := by
    rw [outlines, content_entries.empty he, options, he]
    cases kind <;> rfl

/-- What is entered into a body other than an alias is an outline of its symbol. -/
theorem outlines_of_entries {g : Body → Body} {e : Entry} (hkind : s.kind ≠ .aliasKind)
    (hg : ∀ body : Body, (g body).kind = body.kind)
    (h : (s.mapBody g).entries.Perm (s.entries ++ [e])) :
    (s.mapBody g).outlines.Perm (s.outlines ++ [e.outline]) := by
  have hoptions {u : Symbol} (hu : u.kind ≠ .aliasKind) : u.options = [] := by
    unfold options
    split
    · rename_i hbody
      rw [kind, hbody] at hu
      exact absurd rfl hu
    · rfl
  have hkind' : (s.mapBody g).kind ≠ .aliasKind := by
    show (g s.body).kind ≠ _
    rw [hg]
    exact hkind
  rw [outlines, outlines, hoptions hkind, hoptions hkind', List.map_nil, List.append_nil,
    List.append_nil]
  have hmap := h.map Entry.outline
  rw [List.map_append] at hmap
  exact hmap

theorem outlines_addOption (h : s.kind = .aliasKind) (option : AliasOption) :
    (s.mapBody (·.addOption option)).outlines = s.outlines ++ [option.outline] := by
  have hoptions : (s.mapBody (·.addOption option)).options = s.options ++ [option] := by
    cases s with | mk _ _ _ _ _ _ _ _ body =>
    cases body with
    | aliasBody _ => rfl
    | _ => cases h
  rw [outlines, entries_addOption, hoptions, outlines, List.map_append, List.append_assoc]
  rfl

end Symbol

/-! ### Facts -/

/-- What is known of a symbol, besides what it was declared as and where.  Types have mentions of
the sort `ρ`, parents are of the sort `π`. -/
inductive Fact (ρ π : Type) where
  /-- The symbol is declared on several lines, up to this one. -/
  | lastLine (line : Nat)
  | parent (parent : π)
  | holds (outline : Outline ρ)

/-- The same fact with other mentions, another sort of parents and in another file. -/
def Fact.map {π π' : Type} (f : ρ → σ) (g : π → π') (move : Nat → Nat) : Fact ρ π → Fact σ π'
  | lastLine line => .lastLine line
  | parent p => .parent (g p)
  | holds o => .holds (o.map f move)

theorem Fact.map_map {π π' π'' : Type} (f : ρ → σ) (f' : σ → τ) (g : π → π') (g' : π' → π'')
    (move move' : Nat → Nat) (x : Fact ρ π) :
    (x.map f g move).map f' g' move' = x.map (f' ∘ f) (g' ∘ g) (move' ∘ move) := by
  cases x with
  | lastLine line => rfl
  | parent p => rfl
  | holds o => rw [map, map, map, Outline.map_map]

namespace Symbol

variable {s : Symbol}

/-- The last line of a symbol that is declared on several lines. -/
def extent (s : Symbol) : List (Fact Reference Nat) :=
  if s.kind = .unknown ∨ s.lastLine = s.firstLine then [] else [.lastLine s.lastLine]

/-- What is known of a symbol. -/
def known (s : Symbol) : List (Fact Reference Nat) :=
  s.extent ++ s.parent.toList.map Fact.parent ++ s.outlines.map Fact.holds

/-- **What is known of a symbol**, under its name. -/
def facts (s : Symbol) : List (Text × Fact Reference Nat) := s.known.map (s.name, ·)

theorem mem_facts {name : Text} {fact : Fact Reference Nat} :
    (name, fact) ∈ s.facts ↔ name = s.name ∧ fact ∈ s.known := by
  simp [facts, eq_comm, and_comm]

theorem mem_known {fact : Fact Reference Nat} :
    fact ∈ s.known ↔
      (s.kind ≠ .unknown ∧ s.lastLine ≠ s.firstLine ∧ fact = .lastLine s.lastLine) ∨
      (∃ p, s.parent = some p ∧ fact = .parent p) ∨ ∃ o ∈ s.outlines, fact = .holds o := by
  have hextent : fact ∈ s.extent ↔
      s.kind ≠ .unknown ∧ s.lastLine ≠ s.firstLine ∧ fact = .lastLine s.lastLine := by
    unfold extent
    split
    · rename_i h
      simp only [List.not_mem_nil, false_iff]
      rintro ⟨hk, hl, -⟩
      exact h.elim hk hl
    · rename_i h
      rw [not_or] at h
      simp [h.1, h.2]
  rw [known, List.mem_append, List.mem_append, hextent, or_assoc]
  simp [eq_comm]

theorem parent_mem_known {p : Nat} : .parent p ∈ s.known ↔ s.parent = some p := by
  simp [mem_known]

theorem holds_mem_known {o : Outline Reference} : .holds o ∈ s.known ↔ o ∈ s.outlines := by
  simp [mem_known]

theorem lastLine_mem_known {line : Nat} :
    .lastLine line ∈ s.known ↔
      s.kind ≠ .unknown ∧ s.lastLine ≠ s.firstLine ∧ line = s.lastLine := by
  simp [mem_known]

/-- Of a symbol that holds nothing and stands on one line only the parent may be known. -/
theorem known_of_empty {kind : SymbolKind} (hbody : s.body = .empty kind)
    (hline : s.kind = .unknown ∨ s.lastLine = s.firstLine) :
    s.known = s.parent.toList.map Fact.parent := by
  rw [known, extent, ite_cond_eq_true _ _ (eq_true hline), content_outlines.empty hbody]
  simp

theorem known_of_unknown (h : s.kind = .unknown) : s.known = s.parent.toList.map Fact.parent := by
  have hbody : s.body = .empty .unknown := by
    unfold Symbol.kind at h
    cases hb : s.body with
    | unknown => rfl
    | _ => rw [hb] at h; cases h
  exact known_of_empty hbody (Or.inl h)

/-- Only declared symbols hold something. -/
theorem kind_ne_unknown_of_mem_outlines {o : Outline Reference} (h : o ∈ s.outlines) :
    s.kind ≠ .unknown := by
  intro hk
  have hmem := holds_mem_known.2 h
  rw [known_of_unknown hk] at hmem
  obtain ⟨p, -, heq⟩ := List.mem_map.1 hmem
  cases heq

theorem facts_promoted (h : s.kind = .unknown) (kind : SymbolKind) (file line : Nat) :
    (SymbolTable.promoted s kind file line).facts = s.facts := by
  have hknown : (SymbolTable.promoted s kind file line).known = s.known := by
    rw [known_of_unknown h, known_of_empty rfl (Or.inr rfl)]
    rfl
  rw [facts, hknown]
  rfl

theorem facts_addReference (edge : Edge) (s : Symbol) : (s.addReference edge).facts = s.facts := by
  unfold addReference
  split <;> rfl

theorem facts_addChild (child : Nat) (s : Symbol) : (s.addChild child).facts = s.facts := by
  unfold addChild
  split <;> rfl

/-- What a body gets is known of its symbol. -/
theorem facts_mapBody {g : Body → Body} {extra : List (Outline Reference)}
    (hg : ∀ body : Body, (g body).kind = body.kind)
    (h : (s.mapBody g).outlines.Perm (s.outlines ++ extra)) :
    (s.mapBody g).facts.Perm (s.facts ++ extra.map fun o => (s.name, .holds o)) := by
  have hextent : (s.mapBody g).extent = s.extent := by
    unfold extent
    have hkind : (s.mapBody g).kind = s.kind := hg s.body
    rw [hkind]
    rfl
  have hknown : (s.mapBody g).known.Perm (s.known ++ extra.map Fact.holds) := by
    unfold known
    rw [hextent, List.append_assoc _ (s.outlines.map _), ← List.map_append]
    exact (h.map _).append_left _
  have hmap := hknown.map fun fact => (s.name, fact)
  rw [List.map_append, List.map_map] at hmap
  exact hmap

/-- A first parent is a new fact. -/
theorem facts_setParent (h : s.parent = none) (p : Nat) :
    ({ s with parent := some p } : Symbol).facts.Perm (s.facts ++ [(s.name, .parent p)]) := by
  have hknown : ({ s with parent := some p } : Symbol).known.Perm (s.known ++ [.parent p]) := by
    unfold known
    rw [h]
    show (s.extent ++ [Fact.parent p] ++ s.outlines.map Fact.holds).Perm
      (s.extent ++ [] ++ s.outlines.map Fact.holds ++ [Fact.parent p])
    rw [List.append_nil, List.append_assoc, List.append_assoc]
    exact List.perm_append_comm.append_left _
  have hmap := hknown.map fun fact => (s.name, fact)
  rw [List.map_append] at hmap
  exact hmap

/-- The last line of a declaration is a new fact, unless it is the first one too. -/
theorem facts_setLastLine (hk : s.kind ≠ .unknown) (hline : s.lastLine = s.firstLine)
    (last : Nat) :
    ({ s with lastLine := last } : Symbol).facts.Perm
      (s.facts ++ if last = s.firstLine then [] else [(s.name, .lastLine last)]) := by
  have hold : s.extent = [] := by
    unfold extent
    rw [ite_cond_eq_true _ _ (eq_true (Or.inr hline))]
  have hnew : ({ s with lastLine := last } : Symbol).extent =
      if last = s.firstLine then [] else [.lastLine last] := by
    unfold extent
    have hk' : ({ s with lastLine := last } : Symbol).kind ≠ .unknown := hk
    simp only [hk', false_or]
  have hknown : ({ s with lastLine := last } : Symbol).known =
      (if last = s.firstLine then [] else [.lastLine last]) ++ s.known := by
    unfold known
    rw [hnew, hold, List.nil_append, List.append_assoc]
    rfl
  have hmap : ({ s with lastLine := last } : Symbol).facts =
      (if last = s.firstLine then [] else [(s.name, .lastLine last)]) ++ s.facts := by
    unfold facts
    rw [hknown, List.map_append]
    split <;> rfl
  rw [hmap]
  exact List.perm_append_comm

end Symbol

namespace SymbolTable

variable {t t' : SymbolTable} {s : Symbol} {f : Symbol → Symbol} {kind : SymbolKind} {name : Text}
  {file line id : Nat}

/-- **What is known of symbols**, each fact under the name of its symbol. -/
def facts (t : SymbolTable) : List (Text × Fact Reference Nat) := t.symbols.flatMap Symbol.facts

theorem map_snd_held_facts (t : SymbolTable) : (t.held Symbol.facts).map Prod.snd = t.facts :=
  map_snd_held t Symbol.facts

/-! ### Changes of single symbols -/

theorem facts_modify (hid : ∀ s, (f s).id = s.id)
    (hfacts : ∀ s ∈ t.symbols, s.id = id → (f s).facts = s.facts) :
    (t.modify id f).facts = t.facts := by
  rw [← map_snd_held_facts, held_modify hid hfacts, map_snd_held_facts]

/-- **A change of one symbol adds what is new of it.** -/
theorem WellFormed.facts_modify_append (h : t.WellFormed) (hs : s ∈ t.symbols)
    {extra : List (Text × Fact Reference Nat)} (hid : (f s).id = s.id)
    (hfacts : (f s).facts.Perm (s.facts ++ extra)) :
    (t.modify s.id f).facts.Perm (t.facts ++ extra) := by
  have hheld := (h.held_modify_append hs hid hfacts).map Prod.snd
  rw [map_snd_held_facts, List.map_append, map_snd_held_facts, List.map_map] at hheld
  refine hheld.trans (.of_eq ?_)
  congr 1
  exact List.map_id extra

/-- A change of a symbol that keeps its name and what belongs to it. -/
theorem holds_mem_facts_modify (hname : ∀ s, (f s).name = s.name)
    (houtlines : ∀ s, (f s).outlines = s.outlines) {o : Outline Reference} :
    (name, .holds o) ∈ (t.modify id f).facts ↔ (name, .holds o) ∈ t.facts := by
  unfold facts
  rw [List.mem_flatMap, List.mem_flatMap]
  constructor
  · rintro ⟨u, hu, hx⟩
    obtain ⟨s, hs, rfl⟩ := mem_symbols_modify.1 hu
    refine ⟨s, hs, ?_⟩
    split at hx
    · rw [Symbol.mem_facts, Symbol.holds_mem_known, hname, houtlines] at hx
      rw [Symbol.mem_facts, Symbol.holds_mem_known]
      exact hx
    · exact hx
  · rintro ⟨s, hs, hx⟩
    refine ⟨_, mem_symbols_modify.2 ⟨s, hs, rfl⟩, ?_⟩
    split
    · rw [Symbol.mem_facts, Symbol.holds_mem_known] at hx ⊢
      rw [hname, houtlines]
      exact hx
    · exact hx

/-! ### Making and declaring -/

theorem facts_create : (t.create kind name file line).1.facts = t.facts := by
  have hnew : (t.newSymbol kind name file line).facts = [] := by
    rw [Symbol.facts, Symbol.known_of_empty rfl (Or.inr rfl)]
    rfl
  unfold facts
  rw [symbols_create, List.flatMap_append, List.flatMap_singleton, hnew, List.append_nil]

theorem facts_resolve : (t.resolve name file line).1.facts = t.facts := by
  unfold SymbolTable.resolve
  split
  · rfl
  · exact facts_create

theorem WellFormed.facts_declare (h : t.WellFormed) :
    (t.declare kind name file line).table.facts = t.facts := by
  unfold SymbolTable.declare
  split
  · rfl
  · split
    · exact facts_resolve
    · split
      · rename_i s hu
        obtain ⟨hs, -, hk⟩ := mem_of_find?_eq_some hu
        refine facts_modify (fun _ => rfl) fun u hu' hid => ?_
        rw [h.eq_of_id_eq hu' hs hid]
        exact Symbol.facts_promoted hk kind file line
      · exact facts_create

theorem WellFormed.facts_addEdges (h : t.WellFormed) (edges : List (Nat × Edge)) :
    (t.addEdges edges).1.facts = t.facts := by
  refine h.addEdges_induction (P := fun u => u.facts = t.facts) rfl (fun {u} _ hu id edge => ?_)
    edges
  rw [← hu]
  exact facts_modify (id_addReference edge) fun s _ _ => Symbol.facts_addReference edge s

/-! ### Owners -/

/-- The number belongs to a symbol with a kind and a name. -/
def Owns (t : SymbolTable) (id : Nat) (kind : SymbolKind) (name : Text) : Prop :=
  ∃ s ∈ t.symbols, s.id = id ∧ s.kind = kind ∧ s.name = name

theorem Owns.holds (h : t.Owns id kind name) : t.Holds id kind := by
  obtain ⟨s, hs, hid, hk, -⟩ := h
  exact ⟨s, hs, hid, hk⟩

theorem Extends.owns {reading : Set Nat} (h : Extends reading t t') (hk : kind ≠ .unknown)
    (hown : t.Owns id kind name) : t'.Owns id kind name := by
  obtain ⟨s, hs, rfl, rfl, rfl⟩ := hown
  obtain ⟨s', hs', hext⟩ := h.exists_mem hs
  exact ⟨s', hs', hext.id, hext.kind hk, hext.name⟩

/-- What is declared belongs to its number. -/
theorem WellFormed.owns_declare (h : t.WellFormed) (kind : SymbolKind) (hk : kind ≠ .unknown)
    (name : Text) (file line : Nat) :
    (t.declare kind name file line).table.Owns (t.declare kind name file line).id kind name := by
  unfold SymbolTable.declare
  split
  · rename_i s hfind
    obtain ⟨hs, hn, hsk⟩ := mem_of_find?_eq_some hfind
    exact ⟨s, hs, rfl, hsk, hn⟩
  · simp only [hk, ↓reduceIte]
    split
    · rename_i s hu
      obtain ⟨hs, hn, -⟩ := mem_of_find?_eq_some hu
      exact ⟨_, (h.mem_symbols_promote hs).2 (Or.inl rfl), rfl, kind_promoted, hn⟩
    · exact ⟨_, mem_symbols_create.2 (Or.inr rfl), rfl, kind_newSymbol, rfl⟩

/-- The body of an owner gets something, which becomes known under the name of the owner. -/
theorem WellFormed.facts_mapBody (h : t.WellFormed) (hown : t.Owns id kind name) {g : Body → Body}
    {extra : List (Outline Reference)} (hg : ∀ body : Body, (g body).kind = body.kind)
    (hout : ∀ s : Symbol, s.kind = kind → (s.mapBody g).outlines.Perm (s.outlines ++ extra)) :
    (t.modify id (·.mapBody g)).facts.Perm (t.facts ++ extra.map fun o => (name, .holds o)) := by
  obtain ⟨s, hs, rfl, rfl, rfl⟩ := hown
  exact h.facts_modify_append hs rfl (Symbol.facts_mapBody hg (hout s rfl))

/-! ### Names that are not declared -/

/-- A name that may have been used but was not declared, so nothing is known of it. -/
def Undeclared (t : SymbolTable) (name : Text) : Prop :=
  ∀ s ∈ t.symbols, s.name = name → s.kind = .unknown ∧ s.parent = none

theorem Undeclared.resolve (h : t.Undeclared name) {used : Text} :
    (t.resolve used file line).1.Undeclared name := by
  unfold SymbolTable.resolve
  split
  · exact h
  · intro s hs hname
    rcases mem_symbols_create.1 hs with hs | rfl
    · exact h s hs hname
    · exact ⟨rfl, rfl⟩

theorem Undeclared.not_mem_facts (h : t.Undeclared name) (fact : Fact Reference Nat) :
    (name, fact) ∉ t.facts := by
  intro hmem
  obtain ⟨s, hs, hx⟩ := List.mem_flatMap.1 hmem
  obtain ⟨rfl, hfact⟩ := Symbol.mem_facts.1 hx
  obtain ⟨hk, hp⟩ := h s hs rfl
  rw [Symbol.known_of_unknown hk, hp] at hfact
  cases hfact

/-- **What a first declaration gives**: a symbol at its place of which nothing else is known.  A
symbol that the name had before is the one that is declared. -/
theorem WellFormed.declare_of_undeclared (h : t.WellFormed) (kind : SymbolKind)
    (hk : kind ≠ .unknown) (hname : t.Undeclared name) (file line : Nat) :
    (∃ s ∈ (t.declare kind name file line).table.symbols,
      s.id = (t.declare kind name file line).id ∧ s.name = name ∧ s.body = .empty kind ∧
        s.file = file ∧ s.firstLine = line ∧ s.lastLine = line ∧ s.parent = none) ∧
    ∀ u, t.lookup? name = some u → (t.declare kind name file line).id = u.id := by
  have hfind : t.find? name kind = none := by
    rw [find?_eq_none_iff]
    intro s hs hn hsk
    exact hk (hsk.symm.trans (hname s hs hn).1)
  unfold SymbolTable.declare
  simp only [hfind, hk, ↓reduceIte]
  split
  · rename_i s hu
    obtain ⟨hs, hn, hsk⟩ := mem_of_find?_eq_some hu
    refine ⟨⟨promoted s kind file line, (h.mem_symbols_promote hs).2 (Or.inl rfl), rfl, hn, rfl,
      rfl, rfl, rfl, (hname s hs hn).2⟩, fun u hl => ?_⟩
    obtain ⟨hu', hn'⟩ := mem_of_lookup?_eq_some hl
    rw [h.alone s hs u hu' (hn.trans hn'.symm) hsk]
  · rename_i hnone
    refine ⟨⟨t.newSymbol kind name file line, mem_symbols_create.2 (Or.inr rfl), rfl, rfl, rfl, rfl,
      rfl, rfl, rfl⟩, fun u hl => ?_⟩
    -- a symbol of this name would be unknown, and there is none
    obtain ⟨hu', hn'⟩ := mem_of_lookup?_eq_some hl
    exact absurd (hname u hu' hn').1 (find?_eq_none_iff.1 hnone u hu' hn')

end SymbolTable

end LuaAtlas
