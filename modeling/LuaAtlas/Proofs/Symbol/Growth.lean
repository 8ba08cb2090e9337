import LuaAtlas.Proofs.Symbol.Table
import Mathlib.Data.Set.Insert

/-!
# How a symbol table grows

What a reader of a table can tell about its declarations: where each name was declared first
(`SymbolTable.place?`), which names have a symbol (`SymbolTable.names`) and which names the types
that symbols hold mention (`mentioned`).  `Grows` says how these change from one table to a later
one, and it composes (`Grows.trans`).

Every operation grows the table in its own way: a declaration adds a site
(`WellFormed.grows_declare`), the use of a name adds the name (`WellFormed.grows_resolve`), a change
of one symbol adds at most mentions (`WellFormed.grows_modify`).
-/

namespace LuaAtlas

/-! ### Mentions -/

/-- The names that types mention. -/
def mentioned (signatures : List Signature) : Set Text :=
  {name | ∃ signature ∈ signatures, ∃ r ∈ signature.refs, r.token = name}

@[simp] theorem mentioned_nil : mentioned [] = ∅ := by
  ext name
  simp [mentioned]

@[simp] theorem mentioned_append (signatures later : List Signature) :
    mentioned (signatures ++ later) = mentioned signatures ∪ mentioned later := by
  ext name
  simp only [mentioned, List.mem_append, Set.mem_ofPred_eq, Set.mem_union, or_and_right, exists_or]

theorem mentioned_cons (signature : Signature) (later : List Signature) :
    mentioned (signature :: later) = mentioned [signature] ∪ mentioned later :=
  mentioned_append [signature] later

/-- The types that a symbol holds itself: what an alias stands for, and what a function returns.
Members of classes and parameters of functions are listed apart. -/
def Symbol.signatures (s : Symbol) : List Signature :=
  s.options.map (·.signature) ++ s.routine?.toList.flatMap Routine.allReturns

/-- A new symbol holds no type. -/
theorem Symbol.signatures_of_empty {s : Symbol} {kind : SymbolKind} (h : s.body = .empty kind) :
    s.signatures = [] := by
  rw [signatures, options, routine?, h]
  cases kind <;> rfl

theorem Symbol.signatures_of_unknown {s : Symbol} (h : s.kind = .unknown) : s.signatures = [] := by
  have hbody : s.body = .empty .unknown := by
    rw [kind] at h
    cases hb : s.body <;> rw [hb] at h <;> cases h
    rfl
  exact signatures_of_empty hbody

/-! ### Bodies -/

namespace Body

theorem kind_addProperty (p : Member) (body : Body) : (body.addProperty p).kind = body.kind := by
  cases body <;> rfl

theorem kind_addMethod (m : Method) (body : Body) : (body.addMethod m).kind = body.kind := by
  cases body <;> rfl

theorem kind_addValue (value : Member) (body : Body) : (body.addValue value).kind = body.kind := by
  cases body <;> rfl

theorem kind_addOption (option : AliasOption) (body : Body) :
    (body.addOption option).kind = body.kind := by
  cases body <;> rfl

theorem kind_setRoutine (r : Routine) (body : Body) : (body.setRoutine r).kind = body.kind := by
  cases body <;> rfl

end Body

namespace Symbol

variable {s : Symbol}

/-- An option is kept in an alias. -/
theorem signatures_addOption (h : s.kind = .aliasKind) (option : AliasOption) :
    (s.mapBody (·.addOption option)).signatures = s.signatures ++ [option.signature] := by
  cases s with | mk _ _ _ _ _ _ _ _ body =>
  cases body <;> cases h
  simp [signatures, mapBody, Body.addOption, options, routine?]

/-- What was read of a function is kept in it. -/
theorem signatures_setRoutine (h : s.kind = .functionKind) (hnone : s.routine? = none)
    (r : Routine) : (s.mapBody (·.setRoutine r)).signatures = s.signatures ++ r.allReturns := by
  cases s with | mk _ _ _ _ _ _ _ _ body =>
  cases body <;> cases h
  cases hnone
  simp [signatures, mapBody, Body.setRoutine, options, routine?]

end Symbol

/-- A change of a symbol that keeps what it was declared as and where. -/
structure Symbol.Keeps (f : Symbol → Symbol) : Prop where
  id : ∀ s, (f s).id = s.id
  name : ∀ s, (f s).name = s.name
  kind : ∀ s, (f s).kind = s.kind
  file : ∀ s, (f s).file = s.file
  firstLine : ∀ s, (f s).firstLine = s.firstLine
  nodup : ∀ s, s.references.Nodup → (f s).references.Nodup

theorem Symbol.keeps_mapBody {g : Body → Body} (h : ∀ body, (g body).kind = body.kind) :
    Keeps (mapBody g) :=
  ⟨fun _ => rfl, fun _ => rfl, fun s => h s.body, fun _ => rfl, fun _ => rfl, fun _ hs => hs⟩

theorem Symbol.keeps_id : Keeps fun s => s :=
  ⟨fun _ => rfl, fun _ => rfl, fun _ => rfl, fun _ => rfl, fun _ => rfl, fun _ hs => hs⟩

/-- One of two changes is made, as the symbol wants it. -/
theorem Symbol.Keeps.ite {f g : Symbol → Symbol} (hf : Keeps f) (hg : Keeps g) (p : Symbol → Bool) :
    Keeps fun s => if p s then f s else g s := by
  have hfield : ∀ {β : Type} (field : Symbol → β), (∀ s, field (f s) = field s) →
      (∀ s, field (g s) = field s) → ∀ s, field (if p s then f s else g s) = field s := by
    intro β field hf hg s
    split
    · exact hf s
    · exact hg s
  refine ⟨hfield _ hf.id hg.id, hfield _ hf.name hg.name, hfield _ hf.kind hg.kind,
    hfield _ hf.file hg.file, hfield _ hf.firstLine hg.firstLine, fun s hs => ?_⟩
  show (if p s then f s else g s).references.Nodup
  split
  · exact hf.nodup s hs
  · exact hg.nodup s hs

/-- A change of a symbol that also keeps the types it holds. -/
structure Symbol.Spares (f : Symbol → Symbol) : Prop extends Keeps f where
  signatures : ∀ s, (f s).signatures = s.signatures

namespace Symbol

theorem spares_addProperty (p : Member) : Spares (mapBody (·.addProperty p)) := by
  refine ⟨keeps_mapBody (Body.kind_addProperty p), fun s => ?_⟩
  cases s with | mk _ _ _ _ _ _ _ _ body => cases body <;> rfl

theorem spares_addMethod (m : Method) : Spares (mapBody (·.addMethod m)) := by
  refine ⟨keeps_mapBody (Body.kind_addMethod m), fun s => ?_⟩
  cases s with | mk _ _ _ _ _ _ _ _ body => cases body <;> rfl

theorem spares_addValue (value : Member) : Spares (mapBody (·.addValue value)) := by
  refine ⟨keeps_mapBody (Body.kind_addValue value), fun s => ?_⟩
  cases s with | mk _ _ _ _ _ _ _ _ body => cases body <;> rfl

theorem spares_setParent (parent : Nat) : Spares ({ · with parent := some parent }) :=
  ⟨⟨fun _ => rfl, fun _ => rfl, fun _ => rfl, fun _ => rfl, fun _ => rfl, fun _ hs => hs⟩,
    fun _ => rfl⟩

theorem spares_addChild (child : Nat) : Spares (·.addChild child) := by
  have hadd : Keeps fun s => { s with children := s.children ++ [child] } :=
    ⟨fun _ => rfl, fun _ => rfl, fun _ => rfl, fun _ => rfl, fun _ => rfl, fun _ hs => hs⟩
  refine ⟨keeps_id.ite hadd (·.children.contains child), fun s => ?_⟩
  rw [addChild]
  split <;> rfl

theorem spares_setLastLine (file line lastLine : Nat) :
    Spares fun s => if s.isDeclaredAt file line then { s with lastLine } else s := by
  have hset : Keeps fun s => { s with lastLine } :=
    ⟨fun _ => rfl, fun _ => rfl, fun _ => rfl, fun _ => rfl, fun _ => rfl, fun _ hs => hs⟩
  refine ⟨hset.ite keeps_id (·.isDeclaredAt file line), fun s => ?_⟩
  show (if s.isDeclaredAt file line then { s with lastLine } else s).signatures = s.signatures
  split <;> rfl

end Symbol

/-! ### Sites -/

/-- A place at which a name is declared under a kind. -/
structure Site where
  kind : SymbolKind
  name : Text
  file : Nat
  line : Nat

/-- The file and line at which a name is first declared under a kind. -/
def Site.first? (sites : List Site) (kind : SymbolKind) (name : Text) : Option (Nat × Nat) :=
  (sites.find? fun x => x.kind == kind && x.name == name).map fun x => (x.file, x.line)

theorem Site.first?_append (sites later : List Site) (kind : SymbolKind) (name : Text) :
    first? (sites ++ later) kind name = (first? sites kind name).or (first? later kind name) := by
  rw [first?, List.find?_append, Option.map_or]
  rfl

theorem Site.first?_singleton (x : Site) (kind : SymbolKind) (name : Text) :
    first? [x] kind name =
      if x.kind = kind ∧ x.name = name then some (x.file, x.line) else none := by
  simp only [first?, List.find?_singleton, Bool.and_eq_true, beq_iff_eq]
  split <;> rfl

namespace SymbolTable

/-- The names that have a symbol. -/
def names (t : SymbolTable) : Set Text := {name | ∃ s ∈ t.symbols, s.name = name}

/-- The types that symbols hold. -/
def signatures (t : SymbolTable) : List Signature := t.symbols.flatMap Symbol.signatures

/-- Where a name was declared under a kind. -/
def place? (t : SymbolTable) (kind : SymbolKind) (name : Text) : Option (Nat × Nat) :=
  (t.find? name kind).map fun s => (s.file, s.firstLine)

/-- The symbol with a number is of a kind. -/
def Holds (t : SymbolTable) (id : Nat) (kind : SymbolKind) : Prop :=
  ∃ s ∈ t.symbols, s.id = id ∧ s.kind = kind

/-- **How a table grows**: by declarations at `sites`, by symbols for `added` and by mentions of
`kept`.  An earlier declaration of a name hides a later one of the same kind, and what was declared
stays declared. -/
structure Grows (sites : List Site) (added kept : Set Text) (t t' : SymbolTable) : Prop where
  wellFormed : t'.WellFormed
  place?_eq : ∀ kind name, kind ≠ .unknown →
    t'.place? kind name = (t.place? kind name).or (Site.first? sites kind name)
  names_eq : t'.names = t.names ∪ added
  mentioned_eq : mentioned t'.signatures = mentioned t.signatures ∪ kept
  holds : ∀ id kind, kind ≠ .unknown → t.Holds id kind → t'.Holds id kind

variable {t t' t'' : SymbolTable} {kind : SymbolKind} {name : Text} {file line id : Nat}
  {s : Symbol} {sites sites' : List Site} {added added' kept kept' : Set Text}

/-- A table that keeps its symbols does not grow. -/
theorem Grows.of_symbols_eq (h : t'.WellFormed) (hs : t'.symbols = t.symbols) :
    Grows [] ∅ ∅ t t' := by
  refine ⟨h, ?_, ?_, ?_, ?_⟩
  · intro kind name _
    rw [place?, find?, hs]
    exact (Option.or_none).symm
  · rw [names, hs, Set.union_empty]
    rfl
  · rw [signatures, hs, Set.union_empty]
    rfl
  · intro id kind _ hold
    rw [Holds, hs]
    exact hold

theorem Grows.trans (h : Grows sites added kept t t') (h' : Grows sites' added' kept' t' t'') :
    Grows (sites ++ sites') (added ∪ added') (kept ∪ kept') t t'' := by
  refine ⟨h'.wellFormed, ?_, ?_, ?_, ?_⟩
  · intro kind name hk
    rw [h'.place?_eq kind name hk, h.place?_eq kind name hk, Site.first?_append, Option.or_assoc]
  · rw [h'.names_eq, h.names_eq, Set.union_assoc]
  · rw [h'.mentioned_eq, h.mentioned_eq, Set.union_assoc]
  · intro id kind hk hold
    exact h'.holds id kind hk (h.holds id kind hk hold)

/-! ### Changes of single symbols -/

theorem WellFormed.grows_fresh (h : t.WellFormed) : Grows [] ∅ ∅ t t.fresh.1 :=
  .of_symbols_eq h.fresh rfl

theorem mem_mentioned_signatures :
    name ∈ mentioned t.signatures ↔ ∃ s ∈ t.symbols, name ∈ mentioned s.signatures := by
  simp only [mentioned, signatures, List.mem_flatMap, Set.mem_ofPred_eq]
  constructor
  · rintro ⟨signature, ⟨s, hs, hsig⟩, hname⟩
    exact ⟨s, hs, signature, hsig, hname⟩
  · rintro ⟨s, hs, signature, hsig, hname⟩
    exact ⟨signature, ⟨s, hs, hsig⟩, hname⟩

/-- **A change of one symbol**: it may add mentions. -/
theorem WellFormed.grows_modify (h : t.WellFormed) {f : Symbol → Symbol} (hf : Symbol.Keeps f)
    (hkept : ∀ s ∈ t.symbols, s.id = id →
      mentioned (f s).signatures = mentioned s.signatures ∪ kept)
    (hid : kept.Nonempty → ∃ s ∈ t.symbols, s.id = id) :
    Grows [] ∅ kept t (t.modify id f) := by
  have hg := hf.ite Symbol.keeps_id (·.id == id)
  refine ⟨h.modify hf.id hf.name (fun s _ _ => Or.inr (hf.kind s)) fun s hs _ =>
    hf.nodup s (h.references_nodup s hs), ?_, ?_, ?_, ?_⟩
  · intro kind name _
    rw [place?, find?, SymbolTable.modify, List.find?_map, Option.map_map]
    simp only [Function.comp_def, hg.name, hg.kind, hg.file, hg.firstLine]
    exact Option.or_none.symm
  · ext name
    simp only [names, SymbolTable.modify, List.mem_map, exists_exists_and_eq_and, hg.name,
      Set.union_empty]
  · -- the changed symbol holds what it held and the new types, the others what they held
    ext name
    rw [Set.mem_union, mem_mentioned_signatures, mem_mentioned_signatures]
    constructor
    · rintro ⟨u, hu, hname⟩
      obtain ⟨s, hs, rfl⟩ := mem_symbols_modify.1 hu
      by_cases hsid : s.id = id
      · rw [ite_cond_eq_true _ _ (eq_true hsid), hkept s hs hsid] at hname
        exact hname.imp_left fun hname => ⟨s, hs, hname⟩
      · rw [ite_cond_eq_false _ _ (eq_false hsid)] at hname
        exact Or.inl ⟨s, hs, hname⟩
    · rintro (⟨s, hs, hname⟩ | hname)
      · refine ⟨_, mem_symbols_modify.2 ⟨s, hs, rfl⟩, ?_⟩
        by_cases hsid : s.id = id
        · rw [ite_cond_eq_true _ _ (eq_true hsid), hkept s hs hsid]
          exact Or.inl hname
        · rw [ite_cond_eq_false _ _ (eq_false hsid)]
          exact hname
      · obtain ⟨s, hs, hsid⟩ := hid ⟨name, hname⟩
        refine ⟨_, mem_symbols_modify.2 ⟨s, hs, rfl⟩, ?_⟩
        rw [ite_cond_eq_true _ _ (eq_true hsid), hkept s hs hsid]
        exact Or.inr hname
  · rintro i kind _ ⟨s, hs, hi, hk⟩
    exact ⟨_, List.mem_map_of_mem hs, (hg.id s).trans hi, (hg.kind s).trans hk⟩

/-- A change of one symbol that leaves alone what it holds. -/
theorem WellFormed.grows_modify_quiet (h : t.WellFormed) {f : Symbol → Symbol}
    (hf : Symbol.Spares f) : Grows [] ∅ ∅ t (t.modify id f) := by
  refine h.grows_modify hf.toKeeps (fun s _ _ => ?_) fun he => absurd he Set.not_nonempty_empty
  rw [hf.signatures, Set.union_empty]

/-! ### Edges -/

theorem spares_addReference (edge : Edge) : Symbol.Spares (·.addReference edge) := by
  have hplace (s : Symbol) : (s.addReference edge).file = s.file ∧
      (s.addReference edge).firstLine = s.firstLine := by
    rw [Symbol.addReference]
    split
    · exact ⟨rfl, rfl⟩
    · exact ⟨rfl, rfl⟩
  refine ⟨⟨id_addReference edge, name_addReference edge, kind_addReference edge,
    fun s => (hplace s).1, fun s => (hplace s).2, fun _ hs => references_addReference_nodup hs⟩,
    fun s => ?_⟩
  rw [Symbol.signatures, Symbol.options, Symbol.routine?, body_addReference]
  rfl

theorem WellFormed.grows_addReferences (h : t.WellFormed) (edge : Edge) (ids : List Nat) :
    Grows [] ∅ ∅ t (t.addReferences edge ids).1 := by
  induction ids generalizing t with
  | nil => exact .of_symbols_eq h rfl
  | cons id ids ih =>
    have hone : Grows [] ∅ ∅ t (t.addReference id edge).1 := by
      rw [h.addReference_eq]
      exact h.grows_modify_quiet (spares_addReference edge)
    have hall := hone.trans (ih hone.wellFormed)
    rw [Set.union_self] at hall
    exact hall

/-! ### New symbols -/

theorem Grows.create (hw : (t.create kind name file line).1.WellFormed) :
    Grows [⟨kind, name, file, line⟩] {name} ∅ t (t.create kind name file line).1 := by
  refine ⟨hw, ?_, ?_, ?_, ?_⟩
  · intro kind' name' _
    rw [place?, find?, symbols_create, List.find?_append, Option.map_or, Site.first?_singleton]
    congr 1
    simp only [List.find?_singleton, kind_newSymbol, name_newSymbol, Bool.and_eq_true, beq_iff_eq,
      and_comm]
    split <;> rfl
  · ext n
    simp only [names, Set.mem_ofPred_eq, mem_symbols_create, or_and_right, exists_or,
      exists_eq_left, name_newSymbol, Set.mem_union, Set.mem_singleton_iff]
    exact or_congr_right eq_comm
  · rw [signatures, symbols_create, List.flatMap_append, mentioned_append, List.flatMap_singleton,
      Symbol.signatures_of_empty (s := t.newSymbol kind name file line) rfl, mentioned_nil]
    rfl
  · rintro i k _ ⟨s, hs, hrest⟩
    exact ⟨s, mem_symbols_create.2 (Or.inl hs), hrest⟩

/-- A use is not a declaration. -/
theorem Grows.of_unknown (h : Grows [⟨.unknown, name, file, line⟩] added kept t t') :
    Grows [] added kept t t' := by
  refine ⟨h.wellFormed, fun kind' name' hk => ?_, h.names_eq, h.mentioned_eq, h.holds⟩
  have hnone : ¬(SymbolKind.unknown = kind' ∧ name = name') := fun he => hk he.1.symm
  rw [h.place?_eq kind' name' hk, Site.first?_singleton, ite_cond_eq_false _ _ (eq_false hnone)]
  rfl

/-- A name that is there already adds nothing. -/
theorem Grows.add_mem (h : Grows sites ∅ kept t t') (hname : name ∈ t.names) :
    Grows sites {name} kept t t' := by
  refine ⟨h.wellFormed, h.place?_eq, ?_, h.mentioned_eq, h.holds⟩
  rw [h.names_eq, Set.union_empty, Set.union_eq_self_of_subset_right]
  exact Set.singleton_subset_iff.2 hname

/-- **The use of a name** gives it a symbol. -/
theorem WellFormed.grows_resolve (h : t.WellFormed) (name : Text) (file line : Nat) :
    Grows [] {name} ∅ t (t.resolve name file line).1 := by
  have hw : (t.resolve name file line).1.WellFormed := h.resolve
  rw [SymbolTable.resolve] at hw ⊢
  split at hw
  · rename_i s hl
    obtain ⟨hs, hn⟩ := mem_of_lookup?_eq_some hl
    exact (Grows.of_symbols_eq hw rfl).add_mem ⟨s, hs, hn⟩
  · exact (Grows.create hw).of_unknown

theorem WellFormed.grows_resolveAll (h : t.WellFormed) (used : List Text) (file line : Nat) :
    Grows [] {name | name ∈ used} ∅ t (t.resolveAll used file line) := by
  induction used generalizing t with
  | nil =>
    have hempty : {name : Text | name ∈ ([] : List Text)} = ∅ := by
      ext name
      simp
    rw [hempty]
    exact .of_symbols_eq h rfl
  | cons used rest ih =>
    have hone := h.grows_resolve used file line
    have hall := hone.trans (ih hone.wellFormed)
    rw [Set.union_empty] at hall
    have hset : {name | name ∈ used :: rest} = {used} ∪ {name | name ∈ rest} := by
      ext name
      simp
    rw [hset]
    exact hall

/-- An unknown symbol that gets a kind has its name at the place of the declaration. -/
theorem WellFormed.place?_promote (h : t.WellFormed) (hs : s ∈ t.symbols) (hu : s.kind = .unknown)
    {kind' : SymbolKind} (hk : kind' ≠ .unknown) (name' : Text) :
    (t.promote s.id kind file line).place? kind' name' =
      (t.place? kind' name').or (Site.first? [⟨kind, s.name, file, line⟩] kind' name') := by
  have hw : (t.promote s.id kind file line).WellFormed := h.promote hs hu
  rw [Site.first?_singleton]
  by_cases he : kind = kind' ∧ s.name = name'
  · obtain ⟨rfl, rfl⟩ := he
    -- the unknown symbol has its name to itself, so the name was not declared before
    have hold : t.find? s.name kind = none := by
      refine find?_eq_none_iff.2 fun r hr hn hrk => hk ?_
      rw [← hrk, ← h.alone s hs r hr hn.symm hu, hu]
    have hnew : (t.promote s.id kind file line).find? s.name kind =
        some (promoted s kind file line) :=
      hw.find?_eq_some_iff.2 ⟨(h.mem_symbols_promote hs).2 (Or.inl rfl), rfl, kind_promoted⟩
    rw [place?, hnew, place?, hold, ite_cond_eq_true _ _ (eq_true ⟨rfl, rfl⟩)]
    rfl
  · -- under any other name and kind the same symbols are found
    have hsame : (t.promote s.id kind file line).find? name' kind' = t.find? name' kind' := by
      ext r
      rw [hw.find?_eq_some_iff, h.find?_eq_some_iff, h.mem_symbols_promote hs]
      constructor
      · rintro ⟨rfl | ⟨hr, -⟩, hn, hrk⟩
        · exact absurd ⟨kind_promoted.symm.trans hrk, hn⟩ he
        · exact ⟨hr, hn, hrk⟩
      · rintro ⟨hr, hn, hrk⟩
        refine ⟨Or.inr ⟨hr, fun hid => hk ?_⟩, hn, hrk⟩
        rw [← hrk, h.eq_of_id_eq hr hs hid, hu]
    rw [place?, hsame, ite_cond_eq_false _ _ (eq_false he), Option.or_none]
    rfl

/-- An unknown symbol that gets a kind is declared, under its name. -/
theorem WellFormed.grows_promote (h : t.WellFormed) (hs : s ∈ t.symbols) (hu : s.kind = .unknown) :
    Grows [⟨kind, s.name, file, line⟩] {s.name} ∅ t (t.promote s.id kind file line) := by
  have hne {r : Symbol} (hr : r ∈ t.symbols) (hk : r.kind ≠ .unknown) : r.id ≠ s.id :=
    fun hid => hk (h.eq_of_id_eq hr hs hid ▸ hu)
  refine ⟨h.promote hs hu, fun kind' name' hk => h.place?_promote hs hu hk name', ?_, ?_, ?_⟩
  · ext n
    constructor
    · rintro ⟨u, hu', rfl⟩
      rcases (h.mem_symbols_promote hs).1 hu' with rfl | ⟨hr, -⟩
      · exact Or.inr rfl
      · exact Or.inl ⟨u, hr, rfl⟩
    · rintro (⟨r, hr, rfl⟩ | rfl)
      · by_cases hid : r.id = s.id
        · rw [h.eq_of_id_eq hr hs hid]
          exact ⟨_, (h.mem_symbols_promote hs).2 (Or.inl rfl), rfl⟩
        · exact ⟨r, (h.mem_symbols_promote hs).2 (Or.inr ⟨hr, hid⟩), rfl⟩
      · exact ⟨_, (h.mem_symbols_promote hs).2 (Or.inl rfl), rfl⟩
  · -- neither the unknown symbol nor the declared one holds a type yet
    ext n
    rw [Set.union_empty, mem_mentioned_signatures, mem_mentioned_signatures]
    constructor
    · rintro ⟨u, hu', hn⟩
      rcases (h.mem_symbols_promote hs).1 hu' with rfl | ⟨hr, -⟩
      · rw [Symbol.signatures_of_empty (s := promoted s kind file line) rfl, mentioned_nil] at hn
        exact absurd hn (Set.notMem_empty n)
      · exact ⟨u, hr, hn⟩
    · rintro ⟨r, hr, hn⟩
      refine ⟨r, (h.mem_symbols_promote hs).2 (Or.inr ⟨hr, hne hr fun hk => ?_⟩), hn⟩
      rw [Symbol.signatures_of_unknown hk, mentioned_nil] at hn
      exact Set.notMem_empty n hn
  · rintro i k hk ⟨r, hr, hi, rfl⟩
    exact ⟨r, (h.mem_symbols_promote hs).2 (Or.inr ⟨hr, hne hr hk⟩), hi, rfl⟩

/-- **A declaration** adds its site and its name, and its symbol has the kind from then on. -/
theorem WellFormed.grows_declare (h : t.WellFormed) (hk : kind ≠ .unknown) (name : Text)
    (file line : Nat) :
    Grows [⟨kind, name, file, line⟩] {name} ∅ t (t.declare kind name file line).table ∧
      (t.declare kind name file line).table.Holds (t.declare kind name file line).id kind := by
  have hw : (t.declare kind name file line).table.WellFormed := h.declare
  rw [SymbolTable.declare] at hw ⊢
  split at hw
  · rename_i s hf
    obtain ⟨hs, rfl, hsk⟩ := mem_of_find?_eq_some hf
    have hsame := (Grows.of_symbols_eq h (t := t) rfl).add_mem ⟨s, hs, rfl⟩
    refine ⟨⟨hw, ?_, hsame.names_eq, hsame.mentioned_eq, hsame.holds⟩, s, hs, rfl, hsk⟩
    -- the earlier declaration hides this one
    intro kind' name' _
    rw [Site.first?_singleton]
    split
    · rename_i he
      obtain ⟨rfl, rfl⟩ := he
      rw [place?, hf]
      rfl
    · exact Option.or_none.symm
  · simp only [hk, ↓reduceIte] at hw ⊢
    split at hw
    · rename_i s hu
      obtain ⟨hs, rfl, hsk⟩ := mem_of_find?_eq_some hu
      exact ⟨h.grows_promote hs hsk, _, (h.mem_symbols_promote hs).2 (Or.inl rfl), rfl,
        kind_promoted⟩
    · refine ⟨Grows.create hw, _, mem_symbols_create.2 (Or.inr rfl), rfl, kind_newSymbol⟩

end SymbolTable

end LuaAtlas
