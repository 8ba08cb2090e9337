import LuaAtlas.Proofs.Catalog.Known
import LuaAtlas.Proofs.Catalog.Lookup
import LuaAtlas.Proofs.Catalog.References

/-!
# References lead to the symbols that names mean

Every type that a catalogue keeps was said by some declaration, so its mentions are names with the
numbers that these have in the finished table, at its top and inside (`lookup?_of_mem_signatures`).
A request finds the same symbol under such a name (`Catalog.named?_eq_lookup?`), and the answer to
it has an entry for every edge of the symbol, which names the owner of a property or method
(`Json.TellsOf`, `ofTexts_names_resolved`).
-/

namespace LuaAtlas

/-! ### Kept types -/

/-- What an entry holds is known of the symbol that has the entry. -/
theorem SymbolTable.holds_mem_facts {t : SymbolTable} {s : Symbol} {e : Entry}
    (hs : s ∈ t.symbols) (he : e ∈ s.entries) : (s.name, .holds e.outline) ∈ t.facts := by
  refine List.mem_flatMap.2 ⟨s, hs, Symbol.mem_facts.2 ⟨rfl, Symbol.holds_mem_known.2 ?_⟩⟩
  exact List.mem_append_left _ (List.mem_map_of_mem he)

namespace Draft

variable {d : Draft} {signature : Signature}

/-- **Every kept type is known of some symbol.** -/
theorem Balanced.exists_holds (h : Balanced d) (hmem : signature ∈ d.signatures) :
    ∃ name o, (name, .holds o) ∈ d.table.facts ∧ signature ∈ o.types := by
  have hmethod {m : Method} (hm : m ∈ d.methods) {type : Signature}
      (ht : type ∈ m.routine.outline.types) :
      ∃ name o, (name, .holds o) ∈ d.table.facts ∧ type ∈ o.types := by
    obtain ⟨s, hs, hm⟩ := List.mem_flatMap.1 (h.perm_methods.mem_iff.1 hm)
    exact ⟨s.name, m.outline,
      SymbolTable.holds_mem_facts hs (Symbol.method_mem_entries.2 hm), ht⟩
  have hfunction {s : Symbol} (hs : s ∈ d.table.symbols) {r : Routine} (hr : s.routine? = some r)
      {type : Signature} (ht : type ∈ r.outline.types) :
      ∃ name o, (name, .holds o) ∈ d.table.facts ∧ type ∈ o.types :=
    ⟨s.name, .routine r.outline,
      SymbolTable.holds_mem_facts hs (Symbol.routine_mem_entries.2 hr), ht⟩
  simp only [signatures, List.mem_append] at hmem
  rcases hmem with ((hmem | hmem) | hmem) | hmem
  · obtain ⟨p, hp, rfl⟩ := List.mem_map.1 hmem
    obtain ⟨s, hs, hp⟩ := List.mem_flatMap.1 (h.perm_properties.mem_iff.1 hp)
    exact ⟨s.name, .property p.outline,
      SymbolTable.holds_mem_facts hs (Symbol.property_mem_entries.2 hp), List.mem_singleton_self _⟩
  · obtain ⟨p, hp, rfl⟩ := List.mem_map.1 hmem
    rcases List.mem_append.1 (h.perm_parameters.mem_iff.1 hp) with hp | hp
    · obtain ⟨m, hm, hp⟩ := List.mem_flatMap.1 hp
      refine hmethod hm ?_
      rw [Routine.types_outline]
      exact List.mem_append_left _ (List.mem_map_of_mem hp)
    · obtain ⟨s, hs, hp⟩ := List.mem_flatMap.1 hp
      obtain ⟨r, hr, hp⟩ := List.mem_flatMap.1 hp
      refine hfunction hs (Option.mem_toList.1 hr) ?_
      rw [Routine.types_outline]
      exact List.mem_append_left _ (List.mem_map_of_mem hp)
  · obtain ⟨m, hm, hr⟩ := List.mem_flatMap.1 hmem
    refine hmethod hm ?_
    rw [Routine.types_outline]
    exact List.mem_append_right _ hr
  · obtain ⟨s, hs, hmem⟩ := List.mem_flatMap.1 hmem
    rcases List.mem_append.1 hmem with hmem | hmem
    · obtain ⟨option, hoption, rfl⟩ := List.mem_map.1 hmem
      refine ⟨s.name, option.outline, List.mem_flatMap.2 ⟨s, hs, Symbol.mem_facts.2 ⟨rfl, ?_⟩⟩,
        List.mem_singleton_self _⟩
      exact Symbol.holds_mem_known.2 (List.mem_append_right _ (List.mem_map_of_mem hoption))
    · obtain ⟨r, hr, hmem⟩ := List.mem_flatMap.1 hmem
      refine hfunction hs (Option.mem_toList.1 hr) ?_
      rw [Routine.types_outline]
      exact List.mem_append_right _ hmem

end Draft

/-! ### Names in kept types -/

/-- The number of what holds an item: symbols are held by nothing. -/
def Item.parent? : Item → Option Nat
  | symbol _ => none
  | method m => some m.parent
  | member m => some m.parent

/-- **An entry of an answer tells of an edge**: its sort, the number and the name of what stands
behind it, and who holds that. -/
structure Json.TellsOf (c : Catalog) (edge : Edge) (entry : Json) : Prop where
  kind : entry.field? "kind" = some (.str edge.kind.label)
  number : entry.field? "referencer_id" = some (.nat edge.referencer)
  /-- A property or method stands there with the name of the symbol that holds it. -/
  item : ∃ x, c.referencer? edge = some x ∧ x.id = edge.referencer ∧
    entry.field? "name" = some (.text x.name) ∧
    ∀ parent, x.parent? = some parent → ∃ owner ∈ c.symbols, owner.id = parent ∧
      entry.field? "owner" = some (.text owner.name)

/-- What is held by something is told with the name of its owner. -/
theorem Answer.field?_owner_reference {volume : Volume} {edge : Edge} {x : Item} {parent : Nat}
    {owner : Text} (hparent : x.parent? = some parent)
    (howner : ownerName? volume.catalog parent = some owner) :
    (reference volume edge x).field? "owner" = some (.text owner) := by
  have hfield : Json.ofOption Json.text (ownerName? volume.catalog parent) = .text owner := by
    rw [howner]
    rfl
  cases x with
  | symbol s => cases hparent
  | method m =>
    cases hparent
    rw [reference, placeFields, hfield]
    rfl
  | member m =>
    cases hparent
    rw [reference, placeFields, hfield]
    rfl

theorem Answer.tellsOf_reference (volume : Volume) {edge : Edge} {x : Item}
    (hx : volume.catalog.referencer? edge = some x)
    (howner : ∀ parent, x.parent? = some parent → ∃ owner ∈ volume.catalog.symbols,
      owner.id = parent ∧ ownerName? volume.catalog parent = some owner.name) :
    (reference volume edge x).TellsOf volume.catalog edge where
  kind := by cases x <;> rfl
  number := by cases x <;> rfl
  item := by
    refine ⟨x, hx, Catalog.id_of_referencer? hx, by cases x <;> rfl, fun parent hparent => ?_⟩
    obtain ⟨owner, hmem, hid, hname⟩ := howner parent hparent
    exact ⟨owner, hmem, hid, field?_owner_reference hparent hname⟩

namespace Catalog

variable {v : Vocabulary} {files : List (List Text)}

/-- **Every mention in a kept type names the symbol that its name stands for**, also inside the
type. -/
theorem lookup?_of_mem_signatures {signature node : Signature} {r : Reference}
    (hmem : signature ∈ (draftOf v files).signatures) (hnode : signature.Contains node)
    (hr : r ∈ node.refs) :
    ∃ s, (draftOf v files).table.lookup? r.token = some s ∧ s.id = r.id := by
  obtain ⟨name, o, hholds, htype⟩ := (Draft.balanced_draftOf v files).exists_holds hmem
  obtain ⟨p, -, o', hsaid, rfl⟩ := holds_mem_facts_draftOf hholds
  rw [Outline.types_map, List.mem_map] at htype
  obtain ⟨sketch, hsketch, rfl⟩ := htype
  -- what is mentioned inside is mentioned at the top, and so its name has a symbol
  have hgathers : sketch.Gathers := (Declaration.sound_of_mem_sayings hsaid).gathers _ hsketch
  have htop := (hgathers.mapRefs (draftOf v files).table.refer).refs_subset hnode hr
  have hname : r.token ∈ (draftOf v files).table.names := by
    rw [names_draftOf]
    exact Or.inr ⟨_, hmem, r, htop, rfl⟩
  rw [TypeNode.refs_mapRefs, List.mem_map] at htop
  obtain ⟨token, -, rfl⟩ := htop
  cases hl : (draftOf v files).table.lookup? token with
  | none =>
    obtain ⟨u, hu, hun⟩ := hname
    exact absurd hun (SymbolTable.lookup?_eq_none_iff.1 hl u hu)
  | some s => exact ⟨s, hl, (SymbolTable.idOf_eq_of_lookup? hl).symm⟩

theorem referencesTo_eq {s : Symbol} (hs : s ∈ (draftOf v files).table.symbols) :
    (ofDraft (draftOf v files) files).referencesTo s.id = s.references := by
  have hget : (ofDraft (draftOf v files) files).get? s.id = some s :=
    (wellFormed_draftOf v files).get?_eq_some_iff.2 ⟨hs, rfl⟩
  rw [referencesTo, hget]
  rfl

/-- All edges on a symbol are listed with what stands behind them. -/
theorem map_fst_referencers_draftOf {s : Symbol} (hs : s ∈ (draftOf v files).table.symbols) :
    ((ofDraft (draftOf v files) files).referencers s.id).map Prod.fst = s.references := by
  rw [map_fst_referencers, referencesTo_eq hs]
  intro edge hedge
  rw [referencesTo_eq hs] at hedge
  exact isSome_referencer? hs hedge

/-- What stands behind an edge and is no symbol is one of the listed methods or properties. -/
theorem referencer?_cases {c : Catalog} {edge : Edge} {x : Item} (h : c.referencer? edge = some x) :
    (∃ s, x = .symbol s) ∨ (∃ m ∈ c.methods, x = .method m) ∨ ∃ p ∈ c.properties, x = .member p := by
  unfold referencer? at h
  cases hkind : edge.kind with
  | property =>
    simp only [hkind, Option.map_eq_some_iff] at h
    obtain ⟨p, hp, rfl⟩ := h
    exact Or.inr (Or.inr ⟨p, List.mem_of_find?_eq_some hp, rfl⟩)
  | parameter =>
    simp only [hkind, Option.or_eq_some_iff, Option.map_eq_some_iff] at h
    rcases h with ⟨m, hm, rfl⟩ | ⟨-, s, -, rfl⟩
    · exact Or.inr (Or.inl ⟨m, List.mem_of_find?_eq_some hm, rfl⟩)
    · exact Or.inl ⟨s, rfl⟩
  | method =>
    simp only [hkind, Option.map_eq_some_iff] at h
    obtain ⟨m, hm, rfl⟩ := h
    exact Or.inr (Or.inl ⟨m, List.mem_of_find?_eq_some hm, rfl⟩)
  | globalFunction =>
    simp only [hkind, Option.map_eq_some_iff] at h
    obtain ⟨s, -, rfl⟩ := h
    exact Or.inl ⟨s, rfl⟩

/-- The owner of a property or method behind an edge is found. -/
theorem exists_ownerName? {edge : Edge} {x : Item} {parent : Nat}
    (hx : (ofDraft (draftOf v files) files).referencer? edge = some x)
    (hparent : x.parent? = some parent) :
    ∃ owner ∈ (ofDraft (draftOf v files) files).symbols, owner.id = parent ∧
      Answer.ownerName? (ofDraft (draftOf v files) files) parent = some owner.name := by
  have hb := Draft.balanced_draftOf v files
  have howner : ∃ owner ∈ (draftOf v files).table.symbols, owner.id = parent := by
    rcases referencer?_cases hx with ⟨s, rfl⟩ | ⟨m, hm, rfl⟩ | ⟨p, hp, rfl⟩
    · cases hparent
    · obtain ⟨owner, hmem, hid, -⟩ := hb.owner_method hm
      exact ⟨owner, hmem, hid.trans (Option.some.inj hparent)⟩
    · obtain ⟨owner, hmem, hid, -⟩ := hb.owner_property hp
      exact ⟨owner, hmem, hid.trans (Option.some.inj hparent)⟩
  obtain ⟨owner, hmem, hid⟩ := howner
  have hget : (ofDraft (draftOf v files) files).get? parent = some owner :=
    (wellFormed_draftOf v files).get?_eq_some_iff.2 ⟨hmem, hid⟩
  refine ⟨owner, hmem, hid, ?_⟩
  rw [Answer.ownerName?, hget]
  rfl

/-- **A name means what mentions of it were resolved to.**  A mention in a type that the catalogue
keeps, or anywhere inside such a type, has the number of a symbol with the mentioned name, and the
name means that symbol in a request, whatever other symbols share the name.  The answer about the
symbol that a name means has one entry for each mention that it counts, in their order; an entry
tells what mentions the symbol, and a property or method with the name of its owner. -/
theorem ofTexts_names_resolved (v : Vocabulary) (texts : List Text) :
    let c := ofTexts v texts
    (∀ signature ∈ c.signatures, ∀ node, signature.Contains node → ∀ r ∈ node.refs,
      ∃ s ∈ c.symbols, s.id = r.id ∧ s.name = r.token ∧ Answer.named? c r.token = some s) ∧
    ∀ (name : Text) (s : Symbol), Answer.named? c name = some s →
      ∀ (database builtAt : Text) (sources : List Text), ∃ entries : List Json,
        Answer.references ⟨database, builtAt, sources, c⟩ (.text name) =
          .obj [("database", .text database), ("id", .nat s.id), ("name", .text s.name),
            ("kind", .str s.kind.label), ("ref_count", .nat s.references.length),
            ("references", .arr entries)] ∧
        entries.length = s.references.length ∧
        List.Forall₂ (Json.TellsOf c) s.references entries := by
  intro c
  have hw := wellFormed_draftOf v (texts.map Text.lines)
  have hnamed (name : Text) : Answer.named? c name = _ := named?_eq_lookup? hw _ name
  refine ⟨fun signature hmem node hnode r hr => ?_, ?_⟩
  · obtain ⟨s, hl, hid⟩ := lookup?_of_mem_signatures hmem hnode hr
    obtain ⟨hs, hname⟩ := SymbolTable.mem_of_lookup?_eq_some hl
    exact ⟨s, hs, hid, hname, (hnamed r.token).trans hl⟩
  · intro name s hs database builtAt sources
    let volume : Volume := ⟨database, builtAt, sources, c⟩
    have htarget : Answer.target? volume (.text name) = some s := hs
    have hmem := (SymbolTable.mem_of_lookup?_eq_some ((hnamed name).symm.trans hs)).1
    have hedges : (c.referencers s.id).map Prod.fst = s.references :=
      map_fst_referencers_draftOf hmem
    have htells : List.Forall₂ (Json.TellsOf c) s.references
        ((c.referencers s.id).map fun r => Answer.reference volume r.1 r.2) := by
      rw [← hedges, List.forall₂_map_left_iff, List.forall₂_map_right_iff, List.forall₂_same]
      intro r hr
      obtain ⟨edge, -, hedge⟩ := List.mem_filterMap.1 hr
      obtain ⟨x, hx, rfl⟩ := Option.map_eq_some_iff.1 hedge
      exact Answer.tellsOf_reference volume hx fun parent hparent => exists_ownerName? hx hparent
    refine ⟨_, ?_, htells.length_eq.symm, htells⟩
    rw [Answer.references, htarget]

end Catalog

end LuaAtlas
