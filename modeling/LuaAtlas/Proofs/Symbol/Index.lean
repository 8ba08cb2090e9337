import LuaAtlas.Proofs.Draft.Typing
import Mathlib.Logic.Function.Basic

/-!
# Indexes over a symbol table

A table that is searched often keeps, beside its symbols, an index from a number to the symbol, one
from a name and a kind to the number of the symbol, and one from a name to the numbers of all its
symbols.  `IndexedTable` is such a table: it finds symbols through the indexes only and brings them
up to date with every change.

`run_consistent` says that after any run of operations the indexes hold exactly what the symbols
say, and that the symbols are those of the table without indexes (`SymbolTable.run`).  One operation
is treated in `Consistent.apply`.
-/

namespace LuaAtlas

/-! ### Operations -/

/-- What can be done to a symbol table. -/
inductive Operation where
  /-- A symbol is declared under a kind, unknown included, and may get an edge at once. -/
  | declare (kind : SymbolKind) (name : Text) (file line : Nat) (edge : Option Edge)
  /-- A name is used as a type. -/
  | resolve (name : Text) (file line : Nat)
  /-- The next free number is taken. -/
  | fresh
  /-- An edge is added to the symbol with a number. -/
  | addReference (id : Nat) (edge : Edge)
  /-- A type is read. -/
  | readType (v : Vocabulary) (type : Text) (file line : Nat)

namespace SymbolTable

/-- An edge, if one is given, is added to the symbol with a number. -/
def addEdge (t : SymbolTable) (id : Nat) : Option Edge → SymbolTable
  | none => t
  | some edge => (t.addReference id edge).1

/-- One operation on a table. -/
def apply (t : SymbolTable) : Operation → SymbolTable
  | .declare kind name file line edge =>
    let r := t.declare kind name file line
    r.table.addEdge r.id edge
  | .resolve name file line => (t.resolve name file line).1
  | .fresh => t.fresh.1
  | .addReference id edge => (t.addReference id edge).1
  | .readType v type file line =>
    (Draft.readType v { table := t } type file line).1.table

/-- **A run of operations**, from the empty table. -/
def run (ops : List Operation) : SymbolTable := ops.foldl apply {}

end SymbolTable

/-! ### Tables with indexes -/

/-- A symbol table with an index by number, one by name and kind, and one by name. -/
structure IndexedTable where
  table : SymbolTable := {}
  byId : Nat → Option Symbol := fun _ => none
  byKey : Text × SymbolKind → Option Nat := fun _ => none
  byName : Text → List Nat := fun _ => []

namespace IndexedTable

variable {t : IndexedTable} {kind : SymbolKind} {name : Text} {file line id : Nat} {s : Symbol}

/-- The symbol with a name and a kind, by the index. -/
def find? (t : IndexedTable) (name : Text) (kind : SymbolKind) : Option Symbol :=
  (t.byKey (name, kind)).bind t.byId

/-- The symbols with a name, by the index. -/
def named (t : IndexedTable) (name : Text) : List Symbol := (t.byName name).filterMap t.byId

/-- The symbol that a name stands for, by the index. -/
def lookup? (t : IndexedTable) (name : Text) : Option Symbol :=
  ((t.named name).find? (·.kind != .unknown)).or (t.named name).head?

/-- A symbol is added, to all indexes too. -/
def create (t : IndexedTable) (kind : SymbolKind) (name : Text) (file line : Nat) :
    IndexedTable × Nat :=
  let r := t.table.create kind name file line
  ({ table := r.1,
     byId := Function.update t.byId r.2 (some (t.table.newSymbol kind name file line)),
     byKey := Function.update t.byKey (name, kind) (some r.2),
     byName := Function.update t.byName name (t.byName name ++ [r.2]) }, r.2)

/-- An unknown symbol gets a kind, so it moves in the index by name and kind. -/
def promote (t : IndexedTable) (s : Symbol) (kind : SymbolKind) (file line : Nat) :
    IndexedTable × Nat :=
  ({ t with
     table := t.table.promote s.id kind file line,
     byId := Function.update t.byId s.id (some (SymbolTable.promoted s kind file line)),
     byKey := Function.update (Function.update t.byKey (s.name, .unknown) none) (s.name, kind)
       (some s.id) }, s.id)

/-- **A symbol is declared**, found by the indexes alone. -/
def declare (t : IndexedTable) (kind : SymbolKind) (name : Text) (file line : Nat) :
    IndexedTable × Nat :=
  match (t.find? name kind).or (if kind = .unknown then t.lookup? name else none) with
  | some s => (t, s.id)
  | none =>
    match t.find? name .unknown with
    | some s => t.promote s kind file line
    | none => t.create kind name file line

/-- A name is used as a type: it is declared as unknown. -/
def resolve (t : IndexedTable) (name : Text) (file line : Nat) : IndexedTable × Nat :=
  t.declare .unknown name file line

/-- An edge, if one is given, is added to the symbol that the index has under a number. -/
def addEdge (t : IndexedTable) (id : Nat) (edge : Option Edge) : IndexedTable :=
  match edge, t.byId id with
  | some edge, some s =>
    { t with
      table := (t.table.addReference id edge).1,
      byId := Function.update t.byId id (some (s.addReference edge)) }
  | _, _ => t

/-- One operation on a table with indexes. -/
def apply (t : IndexedTable) : Operation → IndexedTable
  | .declare kind name file line edge =>
    let r := t.declare kind name file line
    r.1.addEdge r.2 edge
  | .resolve name file line => (t.resolve name file line).1
  | .fresh => { t with table := t.table.fresh.1 }
  | .addReference id edge => t.addEdge id (some edge)
  | .readType v type file line =>
    (TypeExpr.read v (Text.trim type)).mentions.foldl (fun t name => (t.resolve name file line).1) t

/-- A run of operations, from the empty table. -/
def run (ops : List Operation) : IndexedTable := ops.foldl apply {}

/-! ### Consistency -/

/-- **Indexes that agree with the symbols**, over a table in order. -/
structure Consistent (t : IndexedTable) : Prop where
  wellFormed : t.table.WellFormed
  /-- The first index has every symbol under its number. -/
  byId_eq_some_iff : ∀ id s, t.byId id = some s ↔ s ∈ t.table.symbols ∧ s.id = id
  /-- The second index leads to the symbol with a name and a kind. -/
  byKey_eq_some_iff : ∀ name kind id, t.byKey (name, kind) = some id ↔
    ∃ s ∈ t.table.symbols, s.id = id ∧ s.name = name ∧ s.kind = kind
  /-- The third index lists the symbols with a name in the order of the table. -/
  byName_eq : ∀ name, t.byName name = (t.table.named name).map (·.id)

theorem consistent_empty : Consistent {} :=
  ⟨SymbolTable.wellFormed_empty, fun _ _ => ⟨nofun, nofun⟩, fun _ _ _ => ⟨nofun, nofun⟩,
    fun _ => rfl⟩

/-- The index by number finds what a search through the symbols finds. -/
theorem Consistent.byId_eq (h : t.Consistent) (id : Nat) : t.byId id = t.table.get? id := by
  ext s
  rw [h.byId_eq_some_iff, h.wellFormed.get?_eq_some_iff]

/-- Consistent indexes find what a search through the symbols finds. -/
theorem Consistent.find?_eq (h : t.Consistent) (name : Text) (kind : SymbolKind) :
    t.find? name kind = t.table.find? name kind := by
  ext s
  rw [find?, Option.bind_eq_some_iff, h.wellFormed.find?_eq_some_iff]
  constructor
  · rintro ⟨id, hkey, hget⟩
    obtain ⟨u, hu, rfl, hn, hk⟩ := (h.byKey_eq_some_iff name kind id).1 hkey
    obtain ⟨hs, hid⟩ := (h.byId_eq_some_iff _ _).1 hget
    obtain rfl := h.wellFormed.eq_of_id_eq hs hu hid
    exact ⟨hs, hn, hk⟩
  · rintro ⟨hs, hn, hk⟩
    exact ⟨s.id, (h.byKey_eq_some_iff name kind s.id).2 ⟨s, hs, rfl, hn, hk⟩,
      (h.byId_eq_some_iff _ _).2 ⟨hs, rfl⟩⟩

theorem Consistent.named_eq (h : t.Consistent) (name : Text) :
    t.named name = t.table.named name := by
  rw [named, h.byName_eq, List.filterMap_map]
  refine (List.filterMap_congr fun s hs => ?_).trans List.filterMap_some
  exact (h.byId_eq_some_iff _ _).2 ⟨(List.mem_filter.1 hs).1, rfl⟩

theorem Consistent.lookup?_eq (h : t.Consistent) (name : Text) :
    t.lookup? name = t.table.lookup? name := by
  rw [lookup?, h.named_eq, SymbolTable.lookup?]

/-! ### Steps -/

/-- A symbol that is put under its number, in the index and among the symbols alike. -/
theorem Consistent.byId_update (h : t.Consistent) (table : SymbolTable) (new : Symbol)
    (hmem : ∀ u, u ∈ table.symbols ↔ u = new ∨ u ∈ t.table.symbols ∧ u.id ≠ new.id)
    (id : Nat) (u : Symbol) :
    Function.update t.byId new.id (some new) id = some u ↔ u ∈ table.symbols ∧ u.id = id := by
  rw [hmem]
  by_cases hid : id = new.id
  · rw [hid, Function.update_self, Option.some_inj]
    constructor
    · rintro rfl
      exact ⟨Or.inl rfl, rfl⟩
    · rintro ⟨rfl | ⟨-, hne⟩, heq⟩
      · rfl
      · exact absurd heq hne
  · rw [Function.update_of_ne hid, h.byId_eq_some_iff]
    constructor
    · rintro ⟨hu, rfl⟩
      exact ⟨Or.inr ⟨hu, hid⟩, rfl⟩
    · rintro ⟨rfl | ⟨hu, -⟩, heq⟩
      · exact absurd heq.symm hid
      · exact ⟨hu, heq⟩

/-- A new symbol is filed under its number, and under its name and kind. -/
theorem Consistent.create (h : t.Consistent)
    (hw : (t.table.create kind name file line).1.WellFormed) :
    (t.create kind name file line).1.Consistent := by
  have hnew : t.table.newSymbol kind name file line ∈
      (t.table.create kind name file line).1.symbols :=
    SymbolTable.mem_symbols_create.2 (Or.inr rfl)
  refine ⟨hw, ?_, fun n k id => ?_, fun n => ?_⟩
  · refine h.byId_update _ (t.table.newSymbol kind name file line) fun u =>
      SymbolTable.mem_symbols_create.trans ?_
    constructor
    · rintro (hu | rfl)
      · exact Or.inr ⟨hu, Nat.ne_of_lt (h.wellFormed.id_lt u hu)⟩
      · exact Or.inl rfl
    · exact fun hu => (hu.imp_right And.left).symm
  · show Function.update t.byKey (name, kind) (some t.table.nextId) (n, k) = some id ↔
      ∃ s ∈ (t.table.create kind name file line).1.symbols, s.id = id ∧ s.name = n ∧ s.kind = k
    constructor
    · intro hkey
      by_cases he : (n, k) = (name, kind)
      · obtain ⟨rfl, rfl⟩ := Prod.mk.inj he
        rw [Function.update_self, Option.some_inj] at hkey
        exact ⟨_, hnew, hkey, rfl, SymbolTable.kind_newSymbol⟩
      · rw [Function.update_of_ne he, h.byKey_eq_some_iff] at hkey
        obtain ⟨s, hs, hrest⟩ := hkey
        exact ⟨s, SymbolTable.mem_symbols_create.2 (Or.inl hs), hrest⟩
    · rintro ⟨s, hs, rfl, rfl, rfl⟩
      rcases SymbolTable.mem_symbols_create.1 hs with hold | heq
      · -- an old symbol under the new key would be the new symbol
        have hne : (s.name, s.kind) ≠ (name, kind) := by
          intro he
          obtain ⟨hn, hk⟩ := Prod.mk.inj he
          have hsame := hw.unique s hs _ hnew hn (hk.trans SymbolTable.kind_newSymbol.symm)
          have hlt := h.wellFormed.id_lt s hold
          rw [hsame] at hlt
          exact Nat.lt_irrefl _ hlt
        rw [Function.update_of_ne hne]
        exact (h.byKey_eq_some_iff _ _ _).2 ⟨s, hold, rfl, rfl, rfl⟩
      · rw [heq, SymbolTable.kind_newSymbol]
        exact Function.update_self ..
  · show Function.update t.byName name (t.byName name ++ [t.table.nextId]) n =
      ((t.table.create kind name file line).1.named n).map (·.id)
    rw [SymbolTable.named_create, List.map_append, ← h.byName_eq]
    by_cases he : name = n
    · subst he
      rw [Function.update_self, ite_cond_eq_true _ _ (eq_self name)]
      rfl
    · rw [Function.update_of_ne (Ne.symm he), ite_cond_eq_false _ _ (eq_false he)]
      exact (List.append_nil _).symm

/-- An unknown symbol that gets a kind is filed under it and no longer as unknown. -/
theorem Consistent.promote (h : t.Consistent) (hs : s ∈ t.table.symbols) (hu : s.kind = .unknown) :
    (t.promote s kind file line).1.Consistent := by
  refine ⟨h.wellFormed.promote hs hu, ?_, fun n k id => ?_, fun n => ?_⟩
  · exact h.byId_update _ _ fun u => h.wellFormed.mem_symbols_promote hs
  · show Function.update (Function.update t.byKey (s.name, .unknown) none) (s.name, kind)
        (some s.id) (n, k) = some id ↔
      ∃ u ∈ (t.table.promote s.id kind file line).symbols, u.id = id ∧ u.name = n ∧ u.kind = k
    have hmem {u : Symbol} : u ∈ (t.table.promote s.id kind file line).symbols ↔
        u = SymbolTable.promoted s kind file line ∨ u ∈ t.table.symbols ∧ u.id ≠ s.id :=
      h.wellFormed.mem_symbols_promote hs
    constructor
    · intro hkey
      by_cases he : (n, k) = (s.name, kind)
      · obtain ⟨rfl, rfl⟩ := Prod.mk.inj he
        rw [Function.update_self, Option.some_inj] at hkey
        exact ⟨_, hmem.2 (Or.inl rfl), hkey, rfl, SymbolTable.kind_promoted⟩
      rw [Function.update_of_ne he] at hkey
      by_cases hold : (n, k) = (s.name, .unknown)
      · rw [hold, Function.update_self] at hkey
        cases hkey
      rw [Function.update_of_ne hold] at hkey
      obtain ⟨r, hr, rfl, rfl, rfl⟩ := (h.byKey_eq_some_iff n k id).1 hkey
      refine ⟨r, hmem.2 (Or.inr ⟨hr, fun hid => ?_⟩), rfl, rfl, rfl⟩
      rw [h.wellFormed.eq_of_id_eq hr hs hid, hu] at hold
      exact hold rfl
    · rintro ⟨u, hmem', rfl, rfl, rfl⟩
      rcases hmem.1 hmem' with rfl | ⟨hr, hid⟩
      · rw [SymbolTable.kind_promoted]
        exact Function.update_self ..
      · -- no other symbol has the name of an unknown one
        have hname : u.name ≠ s.name := fun hn =>
          hid (congrArg Symbol.id (h.wellFormed.alone s hs u hr hn.symm hu)).symm
        have hne : ∀ k', (u.name, u.kind) ≠ (s.name, k') := fun k' he => hname (Prod.mk.inj he).1
        rw [Function.update_of_ne (hne kind), Function.update_of_ne (hne .unknown)]
        exact (h.byKey_eq_some_iff _ _ _).2 ⟨u, hr, rfl, rfl, rfl⟩
  · show t.byName n = ((t.table.promote s.id kind file line).named n).map (·.id)
    rw [SymbolTable.promote, SymbolTable.map_id_named_modify, h.byName_eq]
    · exact fun _ => rfl
    · exact fun _ => rfl

/-- **A declaration that goes by the indexes** keeps them consistent and does what a declaration
does without them. -/
theorem Consistent.declare (h : t.Consistent) (kind : SymbolKind) (name : Text) (file line : Nat) :
    (t.declare kind name file line).1.Consistent ∧
      (t.declare kind name file line).1.table = (t.table.declare kind name file line).table ∧
      (t.declare kind name file line).2 = (t.table.declare kind name file line).id := by
  have hwell : (t.table.declare kind name file line).table.WellFormed := h.wellFormed.declare
  rw [IndexedTable.declare, h.find?_eq, h.find?_eq, h.lookup?_eq]
  rw [SymbolTable.declare] at hwell ⊢
  cases hkey : t.table.find? name kind with
  | some s => exact ⟨h, rfl, rfl⟩
  | none =>
  rw [hkey] at hwell
  rw [Option.none_or]
  by_cases hk : kind = .unknown
  · -- there is no unknown symbol to promote, so a name without a symbol gets a new one
    subst hk
    rw [hkey]
    simp only [↓reduceIte, SymbolTable.resolve] at hwell ⊢
    cases hl : t.table.lookup? name with
    | some s => exact ⟨h, rfl, rfl⟩
    | none =>
      rw [hl] at hwell
      exact ⟨h.create hwell, rfl, rfl⟩
  · simp only [hk, ↓reduceIte] at hwell ⊢
    cases hu : t.table.find? name .unknown with
    | some s =>
      obtain ⟨hs, -, hsk⟩ := SymbolTable.mem_of_find?_eq_some hu
      exact ⟨h.promote hs hsk, rfl, rfl⟩
    | none =>
      rw [hu] at hwell
      exact ⟨h.create hwell, rfl, rfl⟩

theorem Consistent.resolve (h : t.Consistent) (name : Text) (file line : Nat) :
    (t.resolve name file line).1.Consistent ∧
      (t.resolve name file line).1.table = (t.table.resolve name file line).1 := by
  obtain ⟨hc, htable, -⟩ := h.declare .unknown name file line
  exact ⟨hc, htable.trans h.wellFormed.declare_unknown⟩

/-- A symbol with a further edge is filed anew under its number; the other indexes do not tell
edges. -/
theorem Consistent.addReference (h : t.Consistent) (hs : s ∈ t.table.symbols) (edge : Edge) :
    (t.addEdge s.id (some edge)).Consistent := by
  have hfound : t.byId s.id = some s := (h.byId_eq_some_iff _ _).2 ⟨hs, rfl⟩
  have htable : (t.table.addReference s.id edge).1 = t.table.modify s.id (·.addReference edge) :=
    h.wellFormed.addReference_eq s.id edge
  have hid : (s.addReference edge).id = s.id := SymbolTable.id_addReference edge s
  unfold IndexedTable.addEdge
  simp only [hfound]
  refine ⟨h.wellFormed.addReference s.id edge, ?_, fun n k i => ?_, fun n => ?_⟩
  · simp only [htable]
    have hupdate := h.byId_update (t.table.modify s.id (·.addReference edge))
      (s.addReference edge) fun u => by
        rw [hid]
        exact h.wellFormed.mem_modify_iff hs
    rw [hid] at hupdate
    exact hupdate
  · rw [htable]
    simp only [SymbolTable.mem_symbols_modify]
    refine (h.byKey_eq_some_iff n k i).trans ⟨?_, ?_⟩
    · rintro ⟨s, hs, hid, hname, hkind⟩
      refine ⟨_, ⟨s, hs, rfl⟩, ?_⟩
      split
      · rw [SymbolTable.id_addReference, SymbolTable.name_addReference,
          SymbolTable.kind_addReference]
        exact ⟨hid, hname, hkind⟩
      · exact ⟨hid, hname, hkind⟩
    · rintro ⟨_, ⟨s, hs, rfl⟩, hs'⟩
      refine ⟨s, hs, ?_⟩
      split at hs'
      · rw [SymbolTable.id_addReference, SymbolTable.name_addReference,
          SymbolTable.kind_addReference] at hs'
        exact hs'
      · exact hs'
  · rw [htable, SymbolTable.map_id_named_modify (SymbolTable.id_addReference edge)
      (SymbolTable.name_addReference edge)]
    exact h.byName_eq n

theorem Consistent.addEdge (h : t.Consistent) (id : Nat) (edge : Option Edge) :
    (t.addEdge id edge).Consistent ∧ (t.addEdge id edge).table = t.table.addEdge id edge := by
  cases edge with
  | none => exact ⟨h, rfl⟩
  | some edge =>
    cases hfound : t.byId id with
    | none =>
      -- without a symbol under the number nothing is changed on either side
      have hget : t.table.get? id = none := (h.byId_eq id).symm.trans hfound
      unfold IndexedTable.addEdge SymbolTable.addEdge SymbolTable.addReference
      rw [hfound, hget]
      exact ⟨h, rfl⟩
    | some s =>
      obtain ⟨hs, rfl⟩ := (h.byId_eq_some_iff id s).1 hfound
      refine ⟨h.addReference hs edge, ?_⟩
      unfold IndexedTable.addEdge
      rw [hfound]
      rfl

/-- Names are used as types, one after the other. -/
theorem Consistent.resolveAll (h : t.Consistent) (names : List Text) (file line : Nat) :
    (names.foldl (fun t name => (t.resolve name file line).1) t).Consistent ∧
      (names.foldl (fun t name => (t.resolve name file line).1) t).table =
        t.table.resolveAll names file line := by
  induction names generalizing t with
  | nil => exact ⟨h, rfl⟩
  | cons name names ih =>
    obtain ⟨hc, htable⟩ := h.resolve name file line
    obtain ⟨hc', htable'⟩ := ih hc
    refine ⟨hc', htable'.trans ?_⟩
    rw [htable]
    rfl

/-- **One operation** keeps the indexes consistent and does to the symbols what it does without
indexes. -/
theorem Consistent.apply (h : t.Consistent) (op : Operation) :
    (t.apply op).Consistent ∧ (t.apply op).table = t.table.apply op := by
  cases op with
  | declare kind name file line edge =>
    obtain ⟨hc, htable, hid⟩ := h.declare kind name file line
    obtain ⟨hedge, hadded⟩ := hc.addEdge (t.declare kind name file line).2 edge
    refine ⟨hedge, hadded.trans ?_⟩
    -- the edge goes to the number that both declarations give
    rw [htable, hid]
    rfl
  | resolve name file line => exact h.resolve name file line
  | fresh =>
    exact ⟨⟨h.wellFormed.fresh, h.byId_eq_some_iff, h.byKey_eq_some_iff, h.byName_eq⟩, rfl⟩
  | addReference id edge => exact h.addEdge id (some edge)
  | readType v type file line =>
    obtain ⟨hc, htable⟩ := h.resolveAll (TypeExpr.read v (Text.trim type)).mentions file line
    exact ⟨hc, htable.trans (Draft.table_readType v { table := t.table } type file line).symm⟩

theorem Consistent.foldl_apply (h : t.Consistent) (ops : List Operation) :
    (ops.foldl IndexedTable.apply t).Consistent ∧
      (ops.foldl IndexedTable.apply t).table = ops.foldl SymbolTable.apply t.table := by
  induction ops generalizing t with
  | nil => exact ⟨h, rfl⟩
  | cons op ops ih =>
    obtain ⟨hc, htable⟩ := h.apply op
    rw [List.foldl_cons, List.foldl_cons, ← htable]
    exact ih hc

/-! ### Runs -/

/-- **What holds after every run of operations.**  The symbols are those of the table without
indexes; each has a number below the counter and is stored under it, in the index by number too.  A
name and a kind lead to the symbol that has them, and no two symbols share both; a name leads to all
its symbols by increasing number.  No edge stands twice on a symbol, and an unknown symbol is the
only one of its name. -/
theorem run_consistent (ops : List Operation) :
    let t := run ops
    t.table = SymbolTable.run ops ∧
      (∀ s ∈ t.table.symbols, s.id < t.table.nextId) ∧
      (∀ id s, t.table.get? id = some s ↔ s ∈ t.table.symbols ∧ s.id = id) ∧
      (∀ id s, t.byId id = some s ↔ s ∈ t.table.symbols ∧ s.id = id) ∧
      (∀ name kind id, t.byKey (name, kind) = some id ↔
        ∃ s, t.table.get? id = some s ∧ s.name = name ∧ s.kind = kind) ∧
      (∀ s ∈ t.table.symbols, ∀ u ∈ t.table.symbols, s.name = u.name → s.kind = u.kind → s = u) ∧
      (∀ name, (t.byName name).Pairwise (· < ·) ∧
        ∀ id, id ∈ t.byName name ↔ ∃ s, t.table.get? id = some s ∧ s.name = name) ∧
      (∀ s ∈ t.table.symbols, s.references.Nodup) ∧
      ∀ s ∈ t.table.symbols, s.kind = .unknown →
        ∀ u ∈ t.table.symbols, u.name = s.name → u = s := by
  intro t
  obtain ⟨h, htable⟩ : t.Consistent ∧ t.table = SymbolTable.run ops :=
    consistent_empty.foldl_apply ops
  have hw := h.wellFormed
  refine ⟨htable, hw.id_lt, fun id s => hw.get?_eq_some_iff, h.byId_eq_some_iff, ?_, hw.unique, ?_,
    hw.references_nodup, ?_⟩
  · intro name kind id
    rw [h.byKey_eq_some_iff]
    simp only [hw.get?_eq_some_iff, and_assoc]
  · intro name
    rw [h.byName_eq]
    refine ⟨List.pairwise_map.2 (hw.sorted.filter _), fun id => ?_⟩
    simp only [List.mem_map, SymbolTable.named, List.mem_filter, beq_iff_eq, hw.get?_eq_some_iff]
    constructor
    · rintro ⟨s, ⟨hs, hname⟩, hid⟩
      exact ⟨s, ⟨hs, hid⟩, hname⟩
    · rintro ⟨s, ⟨hs, hid⟩, hname⟩
      exact ⟨s, ⟨hs, hname⟩, hid⟩
  · intro s hs hk u hu hn
    exact (hw.alone s hs u hu hn.symm hk).symm

end IndexedTable

end LuaAtlas
