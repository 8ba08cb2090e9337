import LuaAtlas.Builder
import LuaAtlas.Proofs.Catalog.Numbering

/-!
# The graph of references

The edges on a symbol say who mentions it: properties in their types, methods and global functions
in the types of their parameters and return values.  `ofTexts_references` says that these are all
the edges there are, each of them once; that something stands behind every edge; and that a builder
counts the edges of its catalogue.

The edges come from the balance of the draft (`Draft.Balanced`), which has them entry by entry.
`Balanced.mem_references_iff` sorts them by the lists of the draft.
-/

namespace LuaAtlas

/-! ### Mentions -/

/-- A type mentions the symbol with a number. -/
def Signature.Mentions (signature : Signature) (id : Nat) : Prop :=
  id ∈ signature.refs.map (·.id)

/-- The type of a parameter mentions the symbol with a number. -/
def Routine.Takes (r : Routine) (id : Nat) : Prop := ∃ p ∈ r.params, p.signature.Mentions id

/-- The type of a return value mentions the symbol with a number. -/
def Routine.Returns (r : Routine) (id : Nat) : Prop :=
  ∃ signature ∈ r.allReturns, Signature.Mentions signature id

theorem Edge.mem_ofRoutine {kind : EdgeKind} {referencer : Nat} {r : Routine} {x : Nat × Edge} :
    x ∈ ofRoutine kind referencer r ↔
      x.2 = ⟨referencer, .parameter⟩ ∧ r.Takes x.1 ∨ x.2 = ⟨referencer, kind⟩ ∧ r.Returns x.1 := by
  unfold ofRoutine
  rw [List.mem_append]
  refine or_congr ?_ ?_
  · constructor
    · intro hx
      obtain ⟨signature, hsignature, hx⟩ := List.mem_flatMap.1 hx
      obtain ⟨p, hp, rfl⟩ := List.mem_map.1 hsignature
      obtain ⟨hmentions, hedge⟩ := mem_ofType.1 hx
      exact ⟨hedge, p, hp, hmentions⟩
    · rintro ⟨hedge, p, hp, hmentions⟩
      exact List.mem_flatMap.2 ⟨p.signature, List.mem_map_of_mem hp,
        mem_ofType.2 ⟨hmentions, hedge⟩⟩
  · constructor
    · intro hx
      obtain ⟨signature, hsignature, hx⟩ := List.mem_flatMap.1 hx
      obtain ⟨hmentions, hedge⟩ := mem_ofType.1 hx
      exact ⟨hedge, signature, hsignature, hmentions⟩
    · rintro ⟨hedge, signature, hsignature, hmentions⟩
      exact List.mem_flatMap.2 ⟨signature, hsignature, mem_ofType.2 ⟨hmentions, hedge⟩⟩

/-! ### Edges in a draft -/

namespace Draft

variable {d : Draft} {s : Symbol} {edge : Edge}

/-- The edges on a symbol come from what other symbols hold. -/
theorem Balanced.mem_references (h : Balanced d) (hw : d.table.WellFormed)
    (hs : s ∈ d.table.symbols) :
    edge ∈ s.references ↔
      ∃ u ∈ d.table.symbols, ∃ e ∈ u.entries, (s.id, edge) ∈ e.edges u.id := by
  rw [← hw.mem_held_iff hs, h.references, List.mem_flatMap]
  constructor
  · rintro ⟨⟨id, e⟩, hx, hedge⟩
    obtain ⟨u, hu, rfl, he⟩ := SymbolTable.mem_held.1 hx
    exact ⟨u, hu, e, he, hedge⟩
  · rintro ⟨u, hu, e, he, hedge⟩
    exact ⟨(u.id, e), SymbolTable.mem_held.2 ⟨u, hu, rfl, he⟩, hedge⟩

/-- **The edges on a symbol**, by what they come from. -/
theorem Balanced.mem_references_iff (h : Balanced d) (hw : d.table.WellFormed)
    (hs : s ∈ d.table.symbols) :
    edge ∈ s.references ↔
      (∃ p ∈ d.properties, edge = ⟨p.id, .property⟩ ∧ p.signature.Mentions s.id) ∨
      (∃ m ∈ d.methods, edge = ⟨m.id, .parameter⟩ ∧ m.routine.Takes s.id) ∨
      (∃ f ∈ d.table.symbols, ∃ r, f.routine? = some r ∧
        edge = ⟨f.id, .parameter⟩ ∧ r.Takes s.id) ∨
      (∃ m ∈ d.methods, edge = ⟨m.id, .method⟩ ∧ m.routine.Returns s.id) ∨
      ∃ f ∈ d.table.symbols, ∃ r, f.routine? = some r ∧
        edge = ⟨f.id, .globalFunction⟩ ∧ r.Returns s.id := by
  rw [h.mem_references hw hs]
  constructor
  · rintro ⟨u, hu, e, he, hedge⟩
    cases e with
    | property p =>
      have hp : p ∈ d.properties := h.perm_properties.mem_iff.2
        (List.mem_flatMap.2 ⟨u, hu, Symbol.property_mem_entries.1 he⟩)
      obtain ⟨hmentions, hedge⟩ := Edge.mem_ofType.1 hedge
      exact Or.inl ⟨p, hp, hedge, hmentions⟩
    | value e => cases hedge
    | method m =>
      have hm : m ∈ d.methods := h.perm_methods.mem_iff.2
        (List.mem_flatMap.2 ⟨u, hu, Symbol.method_mem_entries.1 he⟩)
      rcases Edge.mem_ofRoutine.1 hedge with hedge | hedge
      · exact Or.inr (Or.inl ⟨m, hm, hedge⟩)
      · exact Or.inr (Or.inr (Or.inr (Or.inl ⟨m, hm, hedge⟩)))
    | routine r =>
      have hr := Symbol.routine_mem_entries.1 he
      rcases Edge.mem_ofRoutine.1 hedge with hedge | hedge
      · exact Or.inr (Or.inr (Or.inl ⟨u, hu, r, hr, hedge⟩))
      · exact Or.inr (Or.inr (Or.inr (Or.inr ⟨u, hu, r, hr, hedge⟩)))
  · -- properties and methods are held by their classes
    have hmethod {m : Method} (hm : m ∈ d.methods) :
        ∃ u ∈ d.table.symbols, Entry.method m ∈ u.entries := by
      obtain ⟨u, hu, hmem⟩ := List.mem_flatMap.1 (h.perm_methods.mem_iff.1 hm)
      exact ⟨u, hu, Symbol.method_mem_entries.2 hmem⟩
    rintro (⟨p, hp, hedge, hmentions⟩ | ⟨m, hm, hedge⟩ | ⟨f, hf, r, hr, hedge⟩ | ⟨m, hm, hedge⟩ |
      ⟨f, hf, r, hr, hedge⟩)
    · obtain ⟨u, hu, hmem⟩ := List.mem_flatMap.1 (h.perm_properties.mem_iff.1 hp)
      exact ⟨u, hu, .property p, Symbol.property_mem_entries.2 hmem,
        Edge.mem_ofType.2 ⟨hmentions, hedge⟩⟩
    · obtain ⟨u, hu, he⟩ := hmethod hm
      exact ⟨u, hu, .method m, he, Edge.mem_ofRoutine.2 (Or.inl hedge)⟩
    · exact ⟨f, hf, .routine r, Symbol.routine_mem_entries.2 hr,
        Edge.mem_ofRoutine.2 (Or.inl hedge)⟩
    · obtain ⟨u, hu, he⟩ := hmethod hm
      exact ⟨u, hu, .method m, he, Edge.mem_ofRoutine.2 (Or.inr hedge)⟩
    · exact ⟨f, hf, .routine r, Symbol.routine_mem_entries.2 hr,
        Edge.mem_ofRoutine.2 (Or.inr hedge)⟩

end Draft

/-! ### What stands behind edges -/

namespace Catalog

variable {c : Catalog} {edge : Edge} {x : Item}

/-- What stands behind an edge has the number that the edge names. -/
theorem id_of_referencer? (h : c.referencer? edge = some x) : x.id = edge.referencer := by
  unfold referencer? at h
  cases hkind : edge.kind with
  | property =>
    simp only [hkind, Option.map_eq_some_iff] at h
    obtain ⟨p, hp, rfl⟩ := h
    exact key_of_find?_eq_some Member.id hp
  | parameter =>
    simp only [hkind, Option.or_eq_some_iff, Option.map_eq_some_iff] at h
    rcases h with ⟨m, hm, rfl⟩ | ⟨-, u, hu, rfl⟩
    · exact key_of_find?_eq_some Method.id hm
    · exact key_of_find?_eq_some Symbol.id hu
  | method =>
    simp only [hkind, Option.map_eq_some_iff] at h
    obtain ⟨m, hm, rfl⟩ := h
    exact key_of_find?_eq_some Method.id hm
  | globalFunction =>
    simp only [hkind, Option.map_eq_some_iff] at h
    obtain ⟨u, hu, rfl⟩ := h
    exact key_of_find?_eq_some Symbol.id hu

/-- If something stands behind every edge on a symbol, then none is left out. -/
theorem map_fst_referencers {id : Nat}
    (h : ∀ edge ∈ c.referencesTo id, (c.referencer? edge).isSome) :
    (c.referencers id).map Prod.fst = c.referencesTo id := by
  unfold referencers
  generalize c.referencesTo id = edges at h ⊢
  induction edges with
  | nil => rfl
  | cons edge edges ih =>
    obtain ⟨x, hx⟩ := Option.isSome_iff_exists.1 (h edge (List.mem_cons_self ..))
    rw [List.filterMap_cons, hx, Option.map_some, List.map_cons,
      ih fun e he => h e (List.mem_cons_of_mem _ he)]

/-- **Something stands behind every edge.** -/
theorem isSome_referencer? {v : Vocabulary} {files : List (List Text)} {s : Symbol}
    (hs : s ∈ (draftOf v files).table.symbols) (hedge : edge ∈ s.references) :
    ((ofDraft (draftOf v files) files).referencer? edge).isSome := by
  -- whatever is listed is found under its number
  have hfound {α : Type} (key : α → Nat) {xs : List α} {a : α} (ha : a ∈ xs) :
      (xs.find? (key · == key a)).isSome :=
    List.find?_isSome.2 ⟨a, ha, beq_self_eq_true _⟩
  have hb := Draft.balanced_draftOf v files
  rcases (hb.mem_references_iff (wellFormed_draftOf v files) hs).1 hedge with
    ⟨p, hp, rfl, -⟩ | ⟨m, hm, rfl, -⟩ | ⟨f, hf, r, -, rfl, -⟩ | ⟨m, hm, rfl, -⟩ |
    ⟨f, hf, r, -, rfl, -⟩
  · exact (Option.isSome_map ..).trans (hfound Member.id hp)
  · show (Option.or _ _).isSome
    rw [Option.isSome_or, Option.isSome_map, Bool.or_eq_true]
    exact Or.inl (hfound Method.id hm)
  · show (Option.or _ _).isSome
    rw [Option.isSome_or, Option.isSome_map, Option.isSome_map, Bool.or_eq_true]
    exact Or.inr (hfound Symbol.id hf)
  · exact (Option.isSome_map ..).trans (hfound Method.id hm)
  · exact (Option.isSome_map ..).trans (hfound Symbol.id hf)

/-- **The graph of references is exact.**  The edges on a symbol, of which none is there twice, are
those of the properties, methods and global functions whose types mention the symbol.  Each edge
leads back to what it comes from, and the edges that a builder counts are those of its catalogue. -/
theorem ofTexts_references (v : Vocabulary) (texts : List Text) :
    let c := ofTexts v texts
    (∀ s ∈ c.symbols, s.references.Nodup ∧ ∀ edge, edge ∈ s.references ↔
      (∃ p ∈ c.properties, edge = ⟨p.id, .property⟩ ∧ p.signature.Mentions s.id) ∨
      (∃ m ∈ c.methods, edge = ⟨m.id, .parameter⟩ ∧ m.routine.Takes s.id) ∨
      (∃ f ∈ c.functions, ∃ r, f.routine? = some r ∧
        edge = ⟨f.id, .parameter⟩ ∧ r.Takes s.id) ∨
      (∃ m ∈ c.methods, edge = ⟨m.id, .method⟩ ∧ m.routine.Returns s.id) ∨
      ∃ f ∈ c.functions, ∃ r, f.routine? = some r ∧
        edge = ⟨f.id, .globalFunction⟩ ∧ r.Returns s.id) ∧
    (∀ s ∈ c.symbols, c.referencesTo s.id = s.references ∧
      (c.referencers s.id).map Prod.fst = c.referencesTo s.id ∧
      ∀ x ∈ c.referencers s.id, x.2.id = x.1.referencer) ∧
    (Builder.mk v false).build texts =
      .ok (⟨v, true⟩, ⟨c, (c.symbols.flatMap (·.references)).length⟩) := by
  intro c
  have hb := Draft.balanced_draftOf v (texts.map Text.lines)
  have hw := wellFormed_draftOf v (texts.map Text.lines)
  refine ⟨fun s hs => ⟨hw.references_nodup s hs, fun edge => ?_⟩, fun s hs => ?_, ?_⟩
  · -- whoever has a routine is a global function
    have hfunction {P : Symbol → Routine → Prop} :
        (∃ f ∈ c.functions, ∃ r, f.routine? = some r ∧ P f r) ↔
          ∃ f ∈ c.symbols, ∃ r, f.routine? = some r ∧ P f r := by
      refine exists_congr fun f => and_congr_left ?_
      rintro ⟨r, hr, -⟩
      have hk : f.kind = .functionKind :=
        Symbol.kind_of_mem_entries (Symbol.routine_mem_entries.2 hr)
      simp [functions, ofKind, hk]
    rw [hfunction, hfunction]
    exact hb.mem_references_iff hw hs
  · have hto : c.referencesTo s.id = s.references := by
      have hget : c.get? s.id = some s := hw.get?_eq_some_iff.2 ⟨hs, rfl⟩
      unfold referencesTo
      rw [hget]
      rfl
    refine ⟨hto, map_fst_referencers fun edge hedge => ?_, fun x hx => ?_⟩
    · rw [hto] at hedge
      exact isSome_referencer? hs hedge
    · obtain ⟨edge, -, hedge⟩ := List.mem_filterMap.1 hx
      obtain ⟨item, hitem, rfl⟩ := Option.map_eq_some_iff.1 hedge
      exact id_of_referencer? hitem
  · have hcount : (draftOf v (texts.map Text.lines)).edgeCount =
        (c.symbols.flatMap (·.references)).length := by
      rw [hb.edgeCount, ← List.length_map (f := Prod.snd), SymbolTable.map_snd_held]
      rfl
    rw [← hcount]
    rfl

end Catalog

end LuaAtlas
