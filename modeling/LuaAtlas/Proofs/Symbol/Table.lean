import LuaAtlas.Symbol.Table
import Mathlib.Data.List.Nodup

/-!
# Symbol tables in order

`SymbolTable.WellFormed` says what every table that is built up by its operations looks like:
numbers lie below the counter and increase, a name has at most one symbol of each kind, an unknown
symbol is the only one of its name, and no edge is recorded twice.  Each operation keeps it
(`WellFormed.fresh`, `WellFormed.modify`, `WellFormed.resolve`, `WellFormed.declare`,
`WellFormed.addReference`).

In such a table the lookups are exact: they find a symbol if and only if it is there
(`WellFormed.get?_eq_some_iff`, `WellFormed.find?_eq_some_iff`).  In any table, the use of a name
gives it a symbol and leaves every other name with the symbol it stands for
(`exists_lookup?_resolveAll`, `lookup?_resolveAll_of_eq_some`).
-/

namespace LuaAtlas.SymbolTable

variable {t : SymbolTable} {kind : SymbolKind} {name : Text} {file line id : Nat} {s : Symbol}

/-- **A symbol table in order.** -/
structure WellFormed (t : SymbolTable) : Prop where
  /-- Every number lies below the counter. -/
  id_lt : ∀ s ∈ t.symbols, s.id < t.nextId
  /-- The symbols stand by increasing number. -/
  sorted : t.symbols.Pairwise (·.id < ·.id)
  /-- A name has at most one symbol of each kind. -/
  unique : ∀ s ∈ t.symbols, ∀ u ∈ t.symbols, s.name = u.name → s.kind = u.kind → s = u
  /-- An unknown symbol is the only one of its name. -/
  alone : ∀ s ∈ t.symbols, ∀ u ∈ t.symbols, s.name = u.name → s.kind = .unknown → s = u
  /-- No edge stands twice on a symbol. -/
  references_nodup : ∀ s ∈ t.symbols, s.references.Nodup

theorem wellFormed_empty : WellFormed {} :=
  ⟨nofun, .nil, nofun, nofun, nofun⟩

/-! ### Exact lookups -/

theorem WellFormed.nodup_ids (h : t.WellFormed) : (t.symbols.map (·.id)).Nodup :=
  List.pairwise_map.2 (h.sorted.imp Nat.ne_of_lt)

/-- A number belongs to one symbol only. -/
theorem WellFormed.eq_of_id_eq (h : t.WellFormed) {s u : Symbol} (hs : s ∈ t.symbols)
    (hu : u ∈ t.symbols) (he : s.id = u.id) : s = u :=
  List.inj_on_of_nodup_map h.nodup_ids hs hu he

theorem WellFormed.nodup_symbols (h : t.WellFormed) : t.symbols.Nodup :=
  h.sorted.imp fun hlt heq => Nat.ne_of_lt hlt (congrArg Symbol.id heq)

theorem mem_of_get?_eq_some (h : t.get? id = some s) : s ∈ t.symbols ∧ s.id = id := by
  have hid := List.find?_some h
  exact ⟨List.mem_of_find?_eq_some h, by simpa using hid⟩

theorem mem_of_find?_eq_some (h : t.find? name kind = some s) :
    s ∈ t.symbols ∧ s.name = name ∧ s.kind = kind := by
  have hkey := List.find?_some h
  exact ⟨List.mem_of_find?_eq_some h, by simpa using hkey⟩

/-- A symbol is stored under its own number and under no other. -/
theorem WellFormed.get?_eq_some_iff (h : t.WellFormed) :
    t.get? id = some s ↔ s ∈ t.symbols ∧ s.id = id := by
  refine ⟨mem_of_get?_eq_some, ?_⟩
  rintro ⟨hs, rfl⟩
  cases hg : t.get? s.id with
  | none => exact absurd (List.find?_eq_none.1 hg s hs) (by simp)
  | some u =>
    obtain ⟨hu, he⟩ := mem_of_get?_eq_some hg
    rw [h.eq_of_id_eq hu hs he]

/-- A symbol is found under its own name and kind and under no others. -/
theorem WellFormed.find?_eq_some_iff (h : t.WellFormed) :
    t.find? name kind = some s ↔ s ∈ t.symbols ∧ s.name = name ∧ s.kind = kind := by
  refine ⟨mem_of_find?_eq_some, ?_⟩
  rintro ⟨hs, rfl, rfl⟩
  cases hf : t.find? s.name s.kind with
  | none => exact absurd (List.find?_eq_none.1 hf s hs) (by simp)
  | some u =>
    obtain ⟨hu, hn, hk⟩ := mem_of_find?_eq_some hf
    rw [h.unique u hu s hs hn hk]

theorem find?_eq_none_iff :
    t.find? name kind = none ↔ ∀ s ∈ t.symbols, s.name = name → s.kind ≠ kind := by
  rw [find?, List.find?_eq_none]
  simp

/-- A name has no symbol exactly when looking it up finds none. -/
theorem lookup?_eq_none_iff : t.lookup? name = none ↔ ∀ s ∈ t.symbols, s.name ≠ name := by
  rw [lookup?, Option.or_eq_none_iff, List.head?_eq_none_iff, named, List.filter_eq_nil_iff]
  constructor
  · rintro ⟨-, hall⟩ s hs
    simpa using hall s hs
  · intro hall
    have hnil : t.symbols.filter (·.name == name) = [] := by
      rw [List.filter_eq_nil_iff]
      intro s hs
      simpa using hall s hs
    refine ⟨by rw [hnil]; rfl, fun s hs => by simpa using hall s hs⟩

theorem mem_of_lookup?_eq_some (h : t.lookup? name = some s) : s ∈ t.symbols ∧ s.name = name := by
  have hmem : s ∈ t.named name := by
    rcases Option.or_eq_some_iff.1 h with h | ⟨-, h⟩
    · exact List.mem_of_find?_eq_some h
    · exact List.mem_of_head? h
  obtain ⟨hs, hn⟩ := List.mem_filter.1 hmem
  exact ⟨hs, by simpa using hn⟩

/-! ### Numbers and changes of single symbols -/

theorem WellFormed.fresh (h : t.WellFormed) : t.fresh.1.WellFormed :=
  ⟨fun s hs => Nat.lt_succ_of_lt (h.id_lt s hs), h.sorted, h.unique, h.alone, h.references_nodup⟩

/-- What a change of the symbol with a number leads to. -/
theorem mem_symbols_modify {f : Symbol → Symbol} {u : Symbol} :
    u ∈ (t.modify id f).symbols ↔ ∃ s ∈ t.symbols, u = if s.id = id then f s else s := by
  simp only [modify, List.mem_map, beq_iff_eq]
  exact exists_congr fun s => and_congr_right fun _ => eq_comm

/-- A change of one symbol that keeps number and name keeps the numbers of each name. -/
theorem map_id_named_modify {f : Symbol → Symbol} (hid : ∀ s, (f s).id = s.id)
    (hname : ∀ s, (f s).name = s.name) (n : Text) :
    ((t.modify id f).named n).map (·.id) = (t.named n).map (·.id) := by
  have hfilter : (fun u : Symbol => u.name == n) ∘ (fun s => if s.id == id then f s else s) =
      fun s => s.name == n := by
    funext s
    show ((if s.id == id then f s else s).name == n) = (s.name == n)
    split
    · rw [hname]
    · rfl
  rw [named, SymbolTable.modify, List.filter_map, hfilter, List.map_map, ← named]
  refine List.map_congr_left fun s _ => ?_
  show (if s.id == id then f s else s).id = s.id
  split
  · exact hid s
  · rfl

/-- **A change of one symbol keeps the table in order** if it keeps the number and the name, records
no edge twice, and gives a new kind to an unknown symbol only. -/
theorem WellFormed.modify (h : t.WellFormed) {f : Symbol → Symbol}
    (hid : ∀ s, (f s).id = s.id) (hname : ∀ s, (f s).name = s.name)
    (hkind : ∀ s ∈ t.symbols, s.id = id → s.kind = .unknown ∨ (f s).kind = s.kind)
    (hrefs : ∀ s ∈ t.symbols, s.id = id → (f s).references.Nodup) :
    (t.modify id f).WellFormed := by
  have gid : ∀ s, (if s.id = id then f s else s).id = s.id := by
    intro s
    split
    · exact hid s
    · rfl
  have gname : ∀ s, (if s.id = id then f s else s).name = s.name := by
    intro s
    split
    · exact hname s
    · rfl
  have gkind : ∀ s ∈ t.symbols,
      s.kind = .unknown ∨ (if s.id = id then f s else s).kind = s.kind := by
    intro s hs
    split
    · exact hkind s hs ‹_›
    · exact Or.inr rfl
  refine ⟨?_, ?_, ?_, ?_, ?_⟩
  · intro u hu
    obtain ⟨s, hs, rfl⟩ := mem_symbols_modify.1 hu
    rw [gid]
    exact h.id_lt s hs
  · rw [SymbolTable.modify, List.pairwise_map]
    refine h.sorted.imp fun {a b} hab => ?_
    simp only [beq_iff_eq, gid]
    exact hab
  -- an unknown symbol has no other symbol of its name to meet
  · intro u hu w hw hn hk
    obtain ⟨s, hs, rfl⟩ := mem_symbols_modify.1 hu
    obtain ⟨r, hr, rfl⟩ := mem_symbols_modify.1 hw
    rw [gname, gname] at hn
    have heq : s = r := by
      rcases gkind s hs with hs' | hs'
      · exact h.alone s hs r hr hn hs'
      rcases gkind r hr with hr' | hr'
      · exact (h.alone r hr s hs hn.symm hr').symm
      rw [hs', hr'] at hk
      exact h.unique s hs r hr hn hk
    rw [heq]
  · intro u hu w hw hn hk
    obtain ⟨s, hs, rfl⟩ := mem_symbols_modify.1 hu
    obtain ⟨r, hr, rfl⟩ := mem_symbols_modify.1 hw
    rw [gname, gname] at hn
    have heq : s = r := by
      rcases gkind s hs with hs' | hs'
      · exact h.alone s hs r hr hn hs'
      · rw [hs'] at hk
        exact h.alone s hs r hr hn hk
    rw [heq]
  · intro u hu
    obtain ⟨s, hs, rfl⟩ := mem_symbols_modify.1 hu
    split
    · exact hrefs s hs ‹_›
    · exact h.references_nodup s hs

/-! ### New symbols -/

/-- The symbol that a declaration or a first use makes. -/
def newSymbol (t : SymbolTable) (kind : SymbolKind) (name : Text) (file line : Nat) : Symbol :=
  { id := t.nextId, name, file, firstLine := line, lastLine := line, body := .empty kind }

@[simp] theorem name_newSymbol : (t.newSymbol kind name file line).name = name := rfl

theorem symbols_create :
    (t.create kind name file line).1.symbols = t.symbols ++ [t.newSymbol kind name file line] := rfl

theorem mem_symbols_create :
    s ∈ (t.create kind name file line).1.symbols ↔
      s ∈ t.symbols ∨ s = t.newSymbol kind name file line := by
  rw [symbols_create, List.mem_append, List.mem_singleton]

/-- A new symbol comes last among those of its name. -/
theorem named_create {n : Text} :
    (t.create kind name file line).1.named n =
      t.named n ++ if name = n then [t.newSymbol kind name file line] else [] := by
  rw [named, symbols_create, List.filter_append, ← named, List.filter_singleton]
  simp [newSymbol]

theorem kind_newSymbol : (t.newSymbol kind name file line).kind = kind := Body.kind_empty kind

/-- A new symbol keeps the table in order if its name has no symbol of its kind, and if neither it
nor a symbol of its name is unknown. -/
theorem WellFormed.create (h : t.WellFormed) (hkey : ∀ s ∈ t.symbols, s.name = name → s.kind ≠ kind)
    (hunknown : ∀ s ∈ t.symbols, s.name = name → s.kind ≠ .unknown)
    (hnew : kind = .unknown → ∀ s ∈ t.symbols, s.name ≠ name) :
    (t.create kind name file line).1.WellFormed := by
  refine ⟨?_, ?_, ?_, ?_, ?_⟩
  · intro s hs
    rw [mem_symbols_create] at hs
    rcases hs with hs | rfl
    · exact Nat.lt_succ_of_lt (h.id_lt s hs)
    · exact Nat.lt_succ_self _
  · rw [symbols_create, List.pairwise_append]
    refine ⟨h.sorted, List.pairwise_singleton .., fun s hs u hu => ?_⟩
    rw [List.mem_singleton] at hu
    subst hu
    exact h.id_lt s hs
  · intro s hs u hu hn hk
    rw [mem_symbols_create] at hs hu
    rcases hs with hs | rfl <;> rcases hu with hu | rfl
    · exact h.unique s hs u hu hn hk
    · exact absurd (hk.trans kind_newSymbol) (hkey s hs hn)
    · exact absurd (hk.symm.trans kind_newSymbol) (hkey u hu hn.symm)
    · rfl
  · intro s hs u hu hn hk
    rw [mem_symbols_create] at hs hu
    rcases hs with hs | rfl <;> rcases hu with hu | rfl
    · exact h.alone s hs u hu hn hk
    · exact absurd hk (hunknown s hs hn)
    · rw [kind_newSymbol] at hk
      exact absurd hn.symm (hnew hk u hu)
    · rfl
  · intro s hs
    rw [mem_symbols_create] at hs
    rcases hs with hs | rfl
    · exact h.references_nodup s hs
    · exact List.nodup_nil

/-- The use of a name keeps the table in order. -/
theorem WellFormed.resolve (h : t.WellFormed) : (t.resolve name file line).1.WellFormed := by
  rw [SymbolTable.resolve]
  split
  · exact h
  · rename_i hl
    have hno := lookup?_eq_none_iff.1 hl
    exact h.create (fun s hs hn => absurd hn (hno s hs)) (fun s hs hn => absurd hn (hno s hs))
      fun _ => hno

/-- The use of a name changes no symbol. -/
theorem symbols_subset_resolve : t.symbols ⊆ (t.resolve name file line).1.symbols := by
  intro s hs
  rw [SymbolTable.resolve]
  split
  · exact hs
  · exact mem_symbols_create.2 (Or.inl hs)

theorem symbols_subset_resolveAll (names : List Text) :
    t.symbols ⊆ (t.resolveAll names file line).symbols := by
  induction names generalizing t with
  | nil => exact fun _ hs => hs
  | cons name names ih => exact fun _ hs => ih (symbols_subset_resolve hs)

/-- The use of a name moves no name that stands for a symbol. -/
theorem lookup?_resolve_of_eq_some {used : Text} (h : t.lookup? name = some s) :
    (t.resolve used file line).1.lookup? name = some s := by
  rw [SymbolTable.resolve]
  split
  · exact h
  · rename_i hnone
    -- the new symbol has another name
    have hne : used ≠ name := by
      rintro rfl
      rw [hnone] at h
      cases h
    rw [lookup?, named_create, ite_cond_eq_false _ _ (eq_false hne), List.append_nil, ← lookup?]
    exact h

/-- A name that was used stands for a symbol. -/
theorem exists_lookup?_resolve : ∃ s, (t.resolve name file line).1.lookup? name = some s := by
  rw [SymbolTable.resolve]
  split
  · exact ⟨_, ‹_›⟩
  · refine Option.ne_none_iff_exists'.1 fun hnone => ?_
    exact lookup?_eq_none_iff.1 hnone (t.newSymbol .unknown name file line)
      (mem_symbols_create.2 (Or.inr rfl)) rfl

/-- The number that the use of a name gives is that of its symbol. -/
theorem lookup?_resolve (t : SymbolTable) (name : Text) (file line : Nat) :
    ∃ s, (t.resolve name file line).1.lookup? name = some s ∧
      s.id = (t.resolve name file line).2 := by
  obtain ⟨s, hs⟩ : ∃ s, (t.resolve name file line).1.lookup? name = some s :=
    exists_lookup?_resolve
  refine ⟨s, hs, ?_⟩
  unfold SymbolTable.resolve at hs ⊢
  split at hs
  · rename_i u hu
    rw [hu] at hs
    cases hs
    rfl
  · rename_i hnone
    obtain ⟨hmem, hname⟩ := mem_of_lookup?_eq_some hs
    rcases mem_symbols_create.1 hmem with hmem | rfl
    · exact absurd hname (lookup?_eq_none_iff.1 hnone s hmem)
    · rfl

theorem lookup?_resolveAll_of_eq_some (h : t.lookup? name = some s) (names : List Text) :
    (t.resolveAll names file line).lookup? name = some s := by
  induction names generalizing t with
  | nil => exact h
  | cons used names ih => exact ih (lookup?_resolve_of_eq_some h)

theorem exists_lookup?_resolveAll {names : List Text} (h : name ∈ names) :
    ∃ s, (t.resolveAll names file line).lookup? name = some s := by
  induction names generalizing t with
  | nil => cases h
  | cons used names ih =>
    rcases List.mem_cons.1 h with rfl | h
    · obtain ⟨s, hs⟩ : ∃ s, (t.resolve name file line).1.lookup? name = some s :=
        exists_lookup?_resolve
      exact ⟨s, lookup?_resolveAll_of_eq_some hs names⟩
    · exact ih h

/-- A symbol that is changed takes its own place; the others stay. -/
theorem WellFormed.mem_modify_iff (h : t.WellFormed) (hs : s ∈ t.symbols)
    {f : Symbol → Symbol} {u : Symbol} :
    u ∈ (t.modify s.id f).symbols ↔ u = f s ∨ u ∈ t.symbols ∧ u.id ≠ s.id := by
  rw [SymbolTable.mem_symbols_modify]
  constructor
  · rintro ⟨r, hr, rfl⟩
    by_cases hid : r.id = s.id
    · rw [ite_cond_eq_true _ _ (eq_true hid), h.eq_of_id_eq hr hs hid]
      exact Or.inl rfl
    · rw [ite_cond_eq_false _ _ (eq_false hid)]
      exact Or.inr ⟨hr, hid⟩
  · rintro (rfl | ⟨hu, hid⟩)
    · exact ⟨s, hs, (ite_cond_eq_true _ _ (eq_self s.id)).symm⟩
    · exact ⟨u, hu, (ite_cond_eq_false _ _ (eq_false hid)).symm⟩

/-- A symbol as its declaration makes it. -/
def promoted (s : Symbol) (kind : SymbolKind) (file line : Nat) : Symbol :=
  { s with file, firstLine := line, lastLine := line, body := .empty kind }

theorem kind_promoted : (promoted s kind file line).kind = kind := Body.kind_empty kind

/-- A symbol that gets a kind takes its own place; the others stay. -/
theorem WellFormed.mem_symbols_promote (h : t.WellFormed) (hs : s ∈ t.symbols) {u : Symbol} :
    u ∈ (t.promote s.id kind file line).symbols ↔
      u = promoted s kind file line ∨ u ∈ t.symbols ∧ u.id ≠ s.id :=
  h.mem_modify_iff hs

/-- An unknown symbol may get any kind. -/
theorem WellFormed.promote (h : t.WellFormed) (hs : s ∈ t.symbols) (hk : s.kind = .unknown) :
    (t.promote s.id kind file line).WellFormed := by
  refine h.modify (fun _ => rfl) (fun _ => rfl) (fun u hu he => ?_) fun u hu _ =>
    h.references_nodup u hu
  rw [h.eq_of_id_eq hu hs he]
  exact Or.inl hk

/-- An unknown symbol is what its name stands for. -/
theorem WellFormed.lookup?_eq_of_unknown (h : t.WellFormed) (hs : s ∈ t.symbols)
    (hk : s.kind = .unknown) : t.lookup? s.name = some s := by
  cases hl : t.lookup? s.name with
  | none => exact absurd rfl (lookup?_eq_none_iff.1 hl s hs)
  | some u =>
    obtain ⟨hu, hn⟩ := mem_of_lookup?_eq_some hl
    rw [h.alone s hs u hu hn.symm hk]

/-- To declare a name as unknown is to use it. -/
theorem WellFormed.declare_unknown (h : t.WellFormed) :
    (t.declare .unknown name file line).table = (t.resolve name file line).1 := by
  rw [SymbolTable.declare]
  split
  · rename_i s hf
    obtain ⟨hs, rfl, hk⟩ := mem_of_find?_eq_some hf
    rw [SymbolTable.resolve, h.lookup?_eq_of_unknown hs hk]
  · rfl

/-- **A declaration keeps the table in order.** -/
theorem WellFormed.declare (h : t.WellFormed) :
    (t.declare kind name file line).table.WellFormed := by
  rw [SymbolTable.declare]
  split
  · exact h
  · rename_i hf
    split
    · exact h.resolve
    · rename_i hk
      split
      · rename_i s hu
        obtain ⟨hs, hn, hsk⟩ := mem_of_find?_eq_some hu
        exact h.promote hs hsk
      · rename_i hu
        exact h.create (find?_eq_none_iff.1 hf) (find?_eq_none_iff.1 hu) fun e => absurd e hk

/-- **What a declaration can do**: it finds its symbol, gives a kind to an unknown one, or makes a
new one, and only a new one can be in conflict. -/
theorem declare_cases (t : SymbolTable) (hk : kind ≠ .unknown) (name : Text) (file line : Nat) :
    (∃ s, t.find? name kind = some s ∧
      t.declare kind name file line = { table := t, id := s.id }) ∨
    (∃ s, t.find? name kind = none ∧ t.find? name .unknown = some s ∧
      t.declare kind name file line =
        { table := t.promote s.id kind file line, id := s.id }) ∨
    (t.find? name kind = none ∧ t.find? name .unknown = none ∧
      t.declare kind name file line =
        { table := (t.create kind name file line).1, id := t.nextId,
          conflict := t.conflict? kind name }) := by
  unfold SymbolTable.declare
  cases hfind : t.find? name kind with
  | some s => exact Or.inl ⟨s, rfl, rfl⟩
  | none =>
    right
    simp only [hk, ↓reduceIte]
    cases hunknown : t.find? name .unknown with
    | some s => exact Or.inl ⟨s, trivial, rfl, rfl⟩
    | none => exact Or.inr ⟨trivial, rfl, rfl⟩

/-! ### Edges -/

theorem references_addReference_nodup {edge : Edge} (h : s.references.Nodup) :
    (s.addReference edge).references.Nodup := by
  rw [Symbol.addReference]
  split
  · exact h
  · rename_i hc
    have hnot : edge ∉ s.references := by simpa using hc
    refine List.nodup_append.2 ⟨h, List.nodup_singleton edge, ?_⟩
    rintro a ha b hb rfl
    rw [List.mem_singleton] at hb
    exact hnot (hb ▸ ha)

theorem id_addReference (edge : Edge) (s : Symbol) : (s.addReference edge).id = s.id := by
  rw [Symbol.addReference]
  split <;> rfl

theorem name_addReference (edge : Edge) (s : Symbol) : (s.addReference edge).name = s.name := by
  rw [Symbol.addReference]
  split <;> rfl

theorem body_addReference (edge : Edge) (s : Symbol) : (s.addReference edge).body = s.body := by
  rw [Symbol.addReference]
  split <;> rfl

theorem kind_addReference (edge : Edge) (s : Symbol) : (s.addReference edge).kind = s.kind :=
  congrArg Body.kind (body_addReference edge s)

/-- An edge changes only the symbol that it is added to. -/
theorem WellFormed.addReference_eq (h : t.WellFormed) (id : Nat) (edge : Edge) :
    (t.addReference id edge).1 = t.modify id (·.addReference edge) := by
  -- an edge that is there already and a number without a symbol change nothing on either side
  have hsame (hno : ∀ s ∈ t.symbols, s.id = id → s.addReference edge = s) :
      t = t.modify id (·.addReference edge) := by
    have hmap : t.symbols.map (fun s => if s.id == id then s.addReference edge else s) =
        t.symbols.map fun s => s := by
      refine List.map_congr_left fun s hs => ?_
      split
      · rename_i hid
        exact hno s hs (beq_iff_eq.1 hid)
      · rfl
    rw [SymbolTable.modify, hmap, List.map_id']
  rw [SymbolTable.addReference]
  split
  · rename_i s hg
    obtain ⟨hs, hid⟩ := mem_of_get?_eq_some hg
    split
    · rename_i hc
      refine hsame fun u hu hid' => ?_
      rw [h.eq_of_id_eq hu hs (hid'.trans hid.symm), Symbol.addReference]
      exact ite_cond_eq_true _ _ (eq_true hc)
    · rfl
  · rename_i hg
    refine hsame fun u hu hid => ?_
    exact absurd (beq_iff_eq.2 hid) (List.find?_eq_none.1 hg u hu)

theorem WellFormed.addReference (h : t.WellFormed) (id : Nat) (edge : Edge) :
    (t.addReference id edge).1.WellFormed := by
  rw [h.addReference_eq]
  exact h.modify (id_addReference edge) (name_addReference edge)
    (fun s _ _ => Or.inr (kind_addReference edge s))
    fun s hs _ => references_addReference_nodup (h.references_nodup s hs)

end LuaAtlas.SymbolTable
