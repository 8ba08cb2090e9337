import LuaAtlas.Proofs.Catalog.Declared
import LuaAtlas.Proofs.Draft.Balance

/-!
# Numbers and owners

Everything in a catalogue that has a number is an item of it (`Catalog.items`): symbols, methods,
properties, parameters and values of enumerations.  `ofTexts_numbering` says that the numbers of the
items are those from zero up to their count, each of them once, so that an item can be found by its
number; and that every member belongs to the owner that it names, which lists it once.

Both follow from the balance of the draft (`Draft.Balanced`).  The numbers of entries are those of
methods, properties, parameters and values (`Entry.perm_ids`), and numbers that are unique make every
list hold its members once (`exists_filter_eq_singleton`).
-/

namespace LuaAtlas

/-! ### Lists with unique keys -/

section Keys

variable {α : Type} {key : α → Nat} {xs : List α} {x : α} {k : Nat}

theorem key_of_find?_eq_some (key : α → Nat) (h : xs.find? (key · == k) = some x) : key x = k := by
  have hkey := List.find?_some h
  exact beq_iff_eq.1 hkey

theorem find?_eq_some_iff_of_nodup (h : (xs.map key).Nodup) :
    xs.find? (key · == k) = some x ↔ x ∈ xs ∧ key x = k := by
  constructor
  · intro hfind
    exact ⟨List.mem_of_find?_eq_some hfind, key_of_find?_eq_some key hfind⟩
  · rintro ⟨hx, rfl⟩
    cases hfind : xs.find? (key · == key x) with
    | none => simpa using List.find?_eq_none.1 hfind x hx
    | some y =>
      have hkey := key_of_find?_eq_some key hfind
      rw [List.inj_on_of_nodup_map h (List.mem_of_find?_eq_some hfind) hx hkey]

/-- An element is listed once if no other has its key. -/
theorem filter_eq_singleton_of_nodup (h : (xs.map key).Nodup) (hx : x ∈ xs) :
    xs.filter (key · == key x) = [x] := by
  obtain ⟨before, after, rfl⟩ := List.append_of_mem hx
  rw [List.map_append, List.map_cons, List.nodup_append, List.nodup_cons] at h
  obtain ⟨-, ⟨hafter, -⟩, hbefore⟩ := h
  have hfront : before.filter (key · == key x) = [] := by
    refine List.filter_eq_nil_iff.2 fun y hy hkey => ?_
    exact hbefore _ (List.mem_map_of_mem hy) _ (List.mem_cons_self ..) (beq_iff_eq.1 hkey)
  have hback : after.filter (key · == key x) = [] := by
    refine List.filter_eq_nil_iff.2 fun y hy hkey => hafter ?_
    rw [← beq_iff_eq.1 hkey]
    exact List.mem_map_of_mem hy
  rw [List.filter_append, List.filter_cons_of_pos (by simp), hfront, hback]
  rfl

/-- If keys are unique in several lists together, then an element is listed once by one of them. -/
theorem exists_filter_eq_singleton {β : Type} {part : β → List α} {ys : List β}
    (hperm : xs.Perm (ys.flatMap part)) (h : (xs.map key).Nodup) (hx : x ∈ xs) :
    ∃ y ∈ ys, x ∈ part y ∧ (part y).filter (key · == key x) = [x] := by
  obtain ⟨y, hy, hmem⟩ := List.mem_flatMap.1 (hperm.mem_iff.1 hx)
  have hnodup : ((ys.flatMap part).map key).Nodup := (hperm.map key).nodup_iff.1 h
  rw [List.map_flatMap] at hnodup
  exact ⟨y, hy, hmem, filter_eq_singleton_of_nodup ((List.nodup_flatMap.1 hnodup).1 y hy) hmem⟩

end Keys

/-! ### Numbers of entries -/

/-- The numbers of entries belong to methods, properties, parameters and values. -/
theorem Entry.perm_ids (entries : List Entry) :
    (entries.flatMap ids).Perm
      ((entries.filterMap method?).map (·.id) ++ (entries.filterMap property?).map (·.id) ++
        (entries.flatMap params).map (·.id) ++ (entries.filterMap value?).map (·.id)) := by
  induction entries with
  | nil => exact .refl _
  | cons e entries ih =>
    -- every number occurs equally often on both sides
    rw [List.perm_iff_count] at ih ⊢
    intro n
    have hn := ih n
    cases e <;>
      simp only [List.flatMap_cons, List.filterMap_cons, method?, property?, value?, params, ids,
        List.map_cons, List.map_append, List.count_append, List.count_cons, List.count_nil,
        List.map_nil] at hn ⊢ <;>
      omega

namespace Draft

variable {d : Draft}

/-- Everything that has a number, without the symbols. -/
theorem Balanced.perm_ids (h : Balanced d) :
    (d.holdings.flatMap (·.2.ids)).Perm
      (d.methods.map (·.id) ++ d.properties.map (·.id) ++ d.parameters.map (·.id) ++
        (d.table.symbols.flatMap (·.values)).map (·.id)) := by
  have hperm := Entry.perm_ids (d.holdings.map (·.2))
  simp only [List.flatMap_map, List.filterMap_map, Function.comp_def] at hperm
  have hvalues : d.holdings.filterMap (·.2.value?) = d.table.symbols.flatMap (·.values) := by
    rw [holdings, SymbolTable.filterMap_held]
    simp only [Symbol.filterMap_value?_entries]
  rw [hvalues] at hperm
  refine hperm.trans (List.Perm.append_right _ (List.Perm.append (List.Perm.append ?_ ?_) ?_))
  · exact h.methods.symm.map _
  · exact h.properties.symm.map _
  · exact h.parameters.symm.map _

/-! ### Owners -/

/-- No two methods have the same number, and no two properties, parameters or values have. -/
theorem Balanced.nodup_ids (h : Balanced d) :
    (d.methods.map (·.id)).Nodup ∧ (d.properties.map (·.id)).Nodup ∧
      (d.parameters.map (·.id)).Nodup ∧
      ((d.table.symbols.flatMap (·.values)).map (·.id)).Nodup := by
  have hall := (h.numbered.perm h.perm_ids).nodup_iff.2 List.nodup_range
  simp only [List.nodup_append] at hall
  obtain ⟨-, ⟨⟨⟨hmethods, hproperties, -⟩, hparameters, -⟩, hvalues, -⟩, -⟩ := hall
  exact ⟨hmethods, hproperties, hparameters, hvalues⟩

/-- What a symbol holds is owned by it. -/
theorem Balanced.ownedBy (h : Balanced d) {s : Symbol} {e : Entry} (hs : s ∈ d.table.symbols)
    (he : e ∈ s.entries) : e.OwnedBy s.id :=
  h.owned (s.id, e) (SymbolTable.mem_held.2 ⟨s, hs, rfl, he⟩)

theorem Balanced.owner_property (h : Balanced d) {p : Member} (hp : p ∈ d.properties) :
    ∃ s ∈ d.table.symbols, s.id = p.parent ∧ s.kind = .classKind ∧
      s.properties.filter (·.id == p.id) = [p] := by
  obtain ⟨s, hs, hmem, honce⟩ :=
    exists_filter_eq_singleton h.perm_properties h.nodup_ids.2.1 hp
  have he : .property p ∈ s.entries := Symbol.property_mem_entries.2 hmem
  have howned : p.parent = s.id := h.ownedBy hs he
  exact ⟨s, hs, howned.symm, Symbol.kind_of_mem_entries he, honce⟩

theorem Balanced.owner_method (h : Balanced d) {m : Method} (hm : m ∈ d.methods) :
    ∃ s ∈ d.table.symbols, s.id = m.parent ∧ s.kind = .classKind ∧
      s.methods.filter (·.id == m.id) = [m] := by
  obtain ⟨s, hs, hmem, honce⟩ := exists_filter_eq_singleton h.perm_methods h.nodup_ids.1 hm
  have he : .method m ∈ s.entries := Symbol.method_mem_entries.2 hmem
  have howned : m.parent = s.id := (h.ownedBy hs he).1
  exact ⟨s, hs, howned.symm, Symbol.kind_of_mem_entries he, honce⟩

theorem Balanced.owner_value (h : Balanced d) {e : Member}
    (he : e ∈ d.table.symbols.flatMap (·.values)) :
    ∃ s ∈ d.table.symbols, s.id = e.parent ∧ s.kind = .enumKind ∧
      s.values.filter (·.id == e.id) = [e] := by
  obtain ⟨s, hs, hmem, honce⟩ :=
    exists_filter_eq_singleton (List.Perm.refl _) h.nodup_ids.2.2.2 he
  have he : .value e ∈ s.entries := Symbol.value_mem_entries.2 hmem
  have howned : e.parent = s.id := h.ownedBy hs he
  exact ⟨s, hs, howned.symm, Symbol.kind_of_mem_entries he, honce⟩

/-- The parameters belong to a method or to a global function. -/
theorem Balanced.owner_parameter (h : Balanced d) {p : Member} (hp : p ∈ d.parameters) :
    (∃ m ∈ d.methods, m.id = p.parent ∧ m.routine.params.filter (·.id == p.id) = [p]) ∨
      ∃ s ∈ d.table.symbols, s.id = p.parent ∧ s.kind = .functionKind ∧
        ∃ r, s.routine? = some r ∧ r.params.filter (·.id == p.id) = [p] := by
  obtain ⟨⟨id, e⟩, hx, hmem, honce⟩ :=
    exists_filter_eq_singleton h.parameters h.nodup_ids.2.2.1 hp
  have howned := h.owned _ hx
  obtain ⟨s, hs, rfl, he⟩ := SymbolTable.mem_held.1 hx
  cases e with
  | property q => cases hmem
  | value q => cases hmem
  | method m =>
    left
    have hm : m ∈ d.methods := h.perm_methods.mem_iff.2
      (List.mem_flatMap.2 ⟨s, hs, Symbol.method_mem_entries.1 he⟩)
    exact ⟨m, hm, (howned.2 p hmem).symm, honce⟩
  | routine r =>
    right
    exact ⟨s, hs, (howned p hmem).symm, Symbol.kind_of_mem_entries he, r,
      Symbol.routine_mem_entries.1 he, honce⟩

end Draft

/-! ### Items -/

namespace Catalog

/-- **Everything in a catalogue that has a number.** -/
def items (c : Catalog) : List Item :=
  c.symbols.map .symbol ++ c.methods.map .method ++ c.properties.map .member ++
    c.parameters.map .member ++ c.enumValues.map .member

/-- Numbers are looked up in the order of the items. -/
theorem item?_eq_find? (c : Catalog) (id : Nat) : c.item? id = c.items.find? (·.id == id) := by
  simp only [items, item?, get?, method?, property?, parameter?, List.find?_append, List.find?_map,
    Option.or_assoc]
  rfl

/-- What only symbols of one kind hold is found by looking at these. -/
theorem flatMap_ofKind {α : Type} (c : Catalog) {kind : SymbolKind} {part : Symbol → List α}
    (h : ∀ s, ∀ a ∈ part s, s.kind = kind) :
    (c.ofKind kind).flatMap part = c.symbols.flatMap part := by
  unfold ofKind
  induction c.symbols with
  | nil => rfl
  | cons s symbols ih =>
    rw [List.flatMap_cons]
    by_cases hk : s.kind = kind
    · rw [List.filter_cons_of_pos (by simp [hk]), List.flatMap_cons, ih]
    · have hnil : part s = [] := List.eq_nil_iff_forall_not_mem.2 fun a ha => hk (h s a ha)
      rw [List.filter_cons_of_neg (by simp [hk]), ih, hnil, List.nil_append]

theorem flatMap_properties_classes (c : Catalog) :
    c.classes.flatMap (·.properties) = c.symbols.flatMap (·.properties) :=
  c.flatMap_ofKind fun _ _ hp => Symbol.kind_of_mem_entries (Symbol.property_mem_entries.2 hp)

theorem flatMap_methods_classes (c : Catalog) :
    c.classes.flatMap (·.methods) = c.symbols.flatMap (·.methods) :=
  c.flatMap_ofKind fun _ _ hm => Symbol.kind_of_mem_entries (Symbol.method_mem_entries.2 hm)

theorem enumValues_eq (c : Catalog) : c.enumValues = c.symbols.flatMap (·.values) :=
  c.flatMap_ofKind fun _ _ he => Symbol.kind_of_mem_entries (Symbol.value_mem_entries.2 he)

theorem flatMap_params_functions (c : Catalog) :
    c.functions.flatMap (fun s => s.routine?.toList.flatMap (·.params)) =
      c.symbols.flatMap fun s => s.routine?.toList.flatMap (·.params) := by
  refine c.flatMap_ofKind fun s p hp => ?_
  obtain ⟨r, hr, -⟩ := List.mem_flatMap.1 hp
  exact Symbol.kind_of_mem_entries (Symbol.routine_mem_entries.2 (Option.mem_toList.1 hr))

section Items

variable {c : Catalog} {i : Int} {x : Item}

/-- An item is found under its number, if no other item has it. -/
theorem itemAt?_eq_some_iff (h : (c.items.map Item.id).Nodup) :
    c.itemAt? i = some x ↔ x ∈ c.items ∧ (x.id : Int) = i := by
  unfold itemAt?
  cases i with
  | ofNat n =>
    show c.item? n = some x ↔ _
    rw [item?_eq_find?, find?_eq_some_iff_of_nodup h]
    exact and_congr_right fun _ => Int.ofNat_inj.symm
  | negSucc n =>
    show none = some x ↔ _
    constructor
    · exact nofun
    · rintro ⟨-, hid⟩
      cases hid

/-- If the numbers of items are those below their count, then there are items under these numbers
and under no others. -/
theorem isSome_itemAt?_iff (h : (c.items.map Item.id).Perm (List.range c.items.length)) :
    (c.itemAt? i).isSome ↔ 0 ≤ i ∧ i < c.items.length := by
  have hnodup : (c.items.map Item.id).Nodup := h.nodup_iff.2 List.nodup_range
  rw [Option.isSome_iff_exists]
  constructor
  · rintro ⟨x, hx⟩
    obtain ⟨hmem, rfl⟩ := (itemAt?_eq_some_iff hnodup).1 hx
    have hlt := List.mem_range.1 (h.mem_iff.1 (List.mem_map_of_mem hmem))
    omega
  · rintro ⟨hnonneg, hlt⟩
    have hrange : i.toNat ∈ List.range c.items.length := by
      rw [List.mem_range]
      omega
    obtain ⟨x, hmem, hid⟩ := List.mem_map.1 (h.mem_iff.2 hrange)
    refine ⟨x, (itemAt?_eq_some_iff hnodup).2 ⟨hmem, ?_⟩⟩
    omega

end Items

/-- **The numbers of items are those below their count**, each of them once. -/
theorem perm_ids_items (v : Vocabulary) (files : List (List Text)) :
    let c := ofDraft (draftOf v files) files
    (c.items.map Item.id).Perm (List.range c.items.length) := by
  intro c
  have hb := Draft.balanced_draftOf v files
  have hids : c.items.map Item.id = c.symbols.map (·.id) ++ (c.methods.map (·.id) ++
      c.properties.map (·.id) ++ c.parameters.map (·.id) ++ c.enumValues.map (·.id)) := by
    simp only [items, List.map_append, List.map_map, List.append_assoc]
    rfl
  have hperm : (c.items.map Item.id).Perm (List.range (draftOf v files).table.nextId) := by
    rw [hids, enumValues_eq]
    exact hb.numbered.perm hb.perm_ids
  -- so the counter has counted the items
  have hlength := hperm.length_eq
  rw [List.length_map, List.length_range] at hlength
  rw [hlength]
  exact hperm

/-- **Numbers are dense and owners are exact.**  The numbers of items are those below their count,
each of them once; an item is found under its number, and nothing under any other integer.  The
parent of a property or method is a class, that of a value an enumeration and that of a parameter a
method or a global function, which lists it once.  The catalogue lists exactly the properties,
methods and parameters that are owned so. -/
theorem ofTexts_numbering (v : Vocabulary) (texts : List Text) :
    let c := ofTexts v texts
    ((c.items.map Item.id).Perm (List.range c.items.length) ∧
      (∀ (i : Int) (x : Item), c.itemAt? i = some x ↔ x ∈ c.items ∧ (x.id : Int) = i) ∧
      ∀ i : Int, (c.itemAt? i).isSome ↔ 0 ≤ i ∧ i < c.items.length) ∧
    ((∀ p ∈ c.properties, ∃ s, c.get? p.parent = some s ∧ s.kind = .classKind ∧
        s.properties.filter (·.id == p.id) = [p]) ∧
      (∀ m ∈ c.methods, ∃ s, c.get? m.parent = some s ∧ s.kind = .classKind ∧
        s.methods.filter (·.id == m.id) = [m]) ∧
      (∀ e ∈ c.enumValues, ∃ s, c.get? e.parent = some s ∧ s.kind = .enumKind ∧
        s.values.filter (·.id == e.id) = [e]) ∧
      ∀ p ∈ c.parameters,
        (∃ m, c.method? p.parent = some m ∧ m.routine.params.filter (·.id == p.id) = [p]) ∨
        ∃ s, c.get? p.parent = some s ∧ s.kind = .functionKind ∧
          ∃ r, s.routine? = some r ∧ r.params.filter (·.id == p.id) = [p]) ∧
    c.properties.Perm (c.classes.flatMap (·.properties)) ∧
    c.methods.Perm (c.classes.flatMap (·.methods)) ∧
    c.parameters.Perm (c.methods.flatMap (·.routine.params) ++
      c.functions.flatMap fun s => s.routine?.toList.flatMap (·.params)) := by
  intro c
  have hb := Draft.balanced_draftOf v (texts.map Text.lines)
  have hw := wellFormed_draftOf v (texts.map Text.lines)
  have hget {s : Symbol} {id : Nat} (hs : s ∈ c.symbols) (hid : s.id = id) :
      c.get? id = some s := hw.get?_eq_some_iff.2 ⟨hs, hid⟩
  have hids : (c.items.map Item.id).Perm (List.range c.items.length) := perm_ids_items v _
  refine ⟨⟨hids, fun i x => itemAt?_eq_some_iff (hids.nodup_iff.2 List.nodup_range),
    fun i => isSome_itemAt?_iff hids⟩, ⟨fun p hp => ?_, fun m hm => ?_, fun e he => ?_,
    fun p hp => ?_⟩, ?_, ?_, ?_⟩
  · obtain ⟨s, hs, hid, hk, honce⟩ := hb.owner_property hp
    exact ⟨s, hget hs hid, hk, honce⟩
  · obtain ⟨s, hs, hid, hk, honce⟩ := hb.owner_method hm
    exact ⟨s, hget hs hid, hk, honce⟩
  · rw [enumValues_eq] at he
    obtain ⟨s, hs, hid, hk, honce⟩ := hb.owner_value he
    exact ⟨s, hget hs hid, hk, honce⟩
  · rcases hb.owner_parameter hp with ⟨m, hm, hid, honce⟩ | ⟨s, hs, hid, hk, hr⟩
    · exact Or.inl ⟨m, (find?_eq_some_iff_of_nodup hb.nodup_ids.1).2 ⟨hm, hid⟩, honce⟩
    · exact Or.inr ⟨s, hget hs hid, hk, hr⟩
  · rw [flatMap_properties_classes]
    exact hb.perm_properties
  · rw [flatMap_methods_classes]
    exact hb.perm_methods
  · rw [flatMap_params_functions]
    exact hb.perm_parameters

end Catalog

end LuaAtlas
