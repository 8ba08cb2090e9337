import LuaAtlas.Proofs.Catalog.ByName

/-!
# Mentions by names

Outlines tell which names a symbol mentions and by which edges (`Outline.mentions`).  If names have
one symbol each, then the edges of a catalogue are those of the outlines, and what stands behind
them is what the outlines are about (`mem_referencers_iff`).  The names that have symbols without
being declared are told by outlines too (`mem_mentioned_iff`).
-/

namespace LuaAtlas

/-! ### Outlines -/

section Mentions

variable {ρ σ : Type}

/-- What a function mentions in its parameters and results, with the edges that these make. -/
def RoutineOutline.mentions (kind : EdgeKind) (r : RoutineOutline ρ) : List (EdgeKind × ρ) :=
  (r.params.map (·.type)).flatMap (fun type => type.refs.map (EdgeKind.parameter, ·)) ++
    r.results.flatMap fun type => type.refs.map (kind, ·)

/-- **What an outline mentions**, with the edges that this makes. -/
def Outline.mentions : Outline ρ → List (EdgeKind × ρ)
  | property p => p.type.refs.map (EdgeKind.property, ·)
  | method _ r _ _ => r.mentions .method
  | value _ => []
  | option _ _ => []
  | routine r => r.mentions .globalFunction

theorem Outline.mentions_map (f : ρ → σ) (move : Nat → Nat) (o : Outline ρ) :
    (o.map f move).mentions = o.mentions.map fun x => (x.1, f x.2) := by
  have htypes (kind : EdgeKind) (types : List (TypeNode ρ)) :
      (types.map (·.mapRefs f)).flatMap (fun type => type.refs.map (kind, ·)) =
        (types.flatMap fun type => type.refs.map (kind, ·)).map fun x => (x.1, f x.2) := by
    rw [List.flatMap_map, List.map_flatMap]
    refine List.flatMap_congr fun type _ => ?_
    rw [TypeNode.refs_mapRefs, List.map_map, List.map_map]
    rfl
  have hroutine (kind : EdgeKind) (r : RoutineOutline ρ) :
      (r.map f move).mentions kind = (r.mentions kind).map fun x => (x.1, f x.2) := by
    have hparams : (r.map f move).params.map (·.type) =
        (r.params.map (·.type)).map (·.mapRefs f) := by
      rw [RoutineOutline.map, List.map_map, List.map_map]
      rfl
    have hresults : (r.map f move).results = r.results.map (·.mapRefs f) := rfl
    rw [RoutineOutline.mentions, hparams, hresults, htypes, htypes, ← List.map_append]
    rfl
  cases o with
  | property p => simp only [map, mentions, MemberOutline.map, TypeNode.refs_mapRefs, List.map_map,
      Function.comp_def]
  | method name r file line => exact hroutine .method r
  | value e => rfl
  | option text type => rfl
  | routine r => exact hroutine .globalFunction r

/-- What is mentioned is mentioned in a type, and not by a value of an enumeration. -/
theorem Outline.exists_type_of_mem_mentions {o : Outline ρ} {x : EdgeKind × ρ}
    (h : x ∈ o.mentions) : (∀ e, o ≠ .value e) ∧ ∃ type ∈ o.types, x.2 ∈ type.refs := by
  have hroutine {kind : EdgeKind} {r : RoutineOutline ρ} (h : x ∈ r.mentions kind) :
      ∃ type ∈ r.types, x.2 ∈ type.refs := by
    rcases List.mem_append.1 h with h | h
    · obtain ⟨type, ht, h⟩ := List.mem_flatMap.1 h
      obtain ⟨r, hr, rfl⟩ := List.mem_map.1 h
      exact ⟨type, List.mem_append_left _ ht, hr⟩
    · obtain ⟨type, ht, h⟩ := List.mem_flatMap.1 h
      obtain ⟨r, hr, rfl⟩ := List.mem_map.1 h
      exact ⟨type, List.mem_append_right _ ht, hr⟩
  cases o with
  | property p =>
    obtain ⟨r, hr, rfl⟩ := List.mem_map.1 h
    exact ⟨nofun, p.type, List.mem_singleton_self _, hr⟩
  | method name r file line => exact ⟨nofun, hroutine h⟩
  | value e => cases h
  | option text type => cases h
  | routine r => exact ⟨nofun, hroutine h⟩

/-- The name, file and line of what an outline is about: for functions those of the owner. -/
def Outline.spot (owner : Text × Nat × Nat) : Outline ρ → Text × Nat × Nat
  | property p => (p.name, p.file, p.line)
  | method name _ file line => (name, file, line)
  | value e => (e.name, e.file, e.line)
  | option _ _ => owner
  | routine _ => owner

end Mentions

/-- The name, file and line of an item, with another index for the file. -/
def Item.spot (move : Nat → Nat) : Item → Text × Nat × Nat
  | symbol s => (s.name, move s.file, s.firstLine)
  | method m => (m.name, move m.file, m.line)
  | member m => (m.name, move m.file, m.line)

/-- What mentions symbols by an entry: a property, a method or the function that holds the entry. -/
def Entry.item (holder : Symbol) : Entry → Item
  | property p => .member p
  | method m => .method m
  | value e => .member e
  | routine _ => .symbol holder

theorem Entry.spot_item (move : Nat → Nat) (holder : Symbol) (e : Entry) :
    (e.item holder).spot move = (e.outline.map Reference.token move).spot
      (holder.name, move holder.file, holder.firstLine) := by
  cases e <;> rfl

/-- The edges of an entry are those that its outline tells. -/
theorem Entry.mem_edges {holder : Symbol} {e : Entry} {x : Nat × Edge} :
    x ∈ e.edges holder.id ↔
      ∃ y ∈ e.outline.mentions, x = (y.2.id, ⟨(e.item holder).id, y.1⟩) := by
  have htype (kind : EdgeKind) (referencer : Nat) (type : Signature) :
      x ∈ Edge.ofType kind referencer type ↔
        ∃ y ∈ type.refs.map (kind, ·), x = (y.2.id, ⟨referencer, y.1⟩) := by
    rw [Edge.mem_ofType, List.mem_map]
    constructor
    · rintro ⟨⟨r, hr, hid⟩, hedge⟩
      exact ⟨(kind, r), List.mem_map_of_mem hr, Prod.ext hid.symm hedge⟩
    · rintro ⟨y, hy, rfl⟩
      obtain ⟨r, hr, rfl⟩ := List.mem_map.1 hy
      exact ⟨⟨r, hr, rfl⟩, rfl⟩
  have htypes (kind : EdgeKind) (referencer : Nat) (types : List Signature) :
      x ∈ types.flatMap (Edge.ofType kind referencer) ↔
        ∃ y ∈ types.flatMap (fun type => type.refs.map (kind, ·)),
          x = (y.2.id, ⟨referencer, y.1⟩) := by
    simp only [List.mem_flatMap, htype]
    constructor
    · rintro ⟨type, ht, y, hy, rfl⟩
      exact ⟨y, ⟨type, ht, hy⟩, rfl⟩
    · rintro ⟨y, ⟨type, ht, hy⟩, rfl⟩
      exact ⟨type, ht, y, hy, rfl⟩
  have hroutine (kind : EdgeKind) (referencer : Nat) (r : Routine) :
      x ∈ Edge.ofRoutine kind referencer r ↔
        ∃ y ∈ r.outline.mentions kind, x = (y.2.id, ⟨referencer, y.1⟩) := by
    have hparams : r.outline.params.map (·.type) = r.params.map (·.signature) := List.map_map
    rw [Edge.ofRoutine, List.mem_append, htypes, htypes, RoutineOutline.mentions, hparams]
    simp only [List.mem_append, or_and_right, exists_or]
    rfl
  cases e with
  | property p => exact htype .property p.id p.signature
  | method m => exact hroutine .method m.id m.routine
  | value e => exact ⟨nofun, fun ⟨_, hy, _⟩ => nomatch hy⟩
  | routine r => exact hroutine .globalFunction holder.id r

/-- The types of what a symbol holds are kept, but for those of values. -/
theorem Draft.Balanced.types_subset_signatures {d : Draft} (h : Balanced d) {s : Symbol}
    (hs : s ∈ d.table.symbols) {o : Outline Reference} (ho : o ∈ s.outlines)
    (hvalue : ∀ e, o ≠ .value e) : o.types ⊆ d.signatures := by
  have hparams {r : Routine} (hp : ∀ p ∈ r.params, p ∈ d.parameters)
      (hr : ∀ type ∈ r.allReturns, type ∈ d.signatures) : r.outline.types ⊆ d.signatures := by
    intro type ht
    rw [Routine.types_outline, List.mem_append] at ht
    rcases ht with ht | ht
    · obtain ⟨p, hpmem, rfl⟩ := List.mem_map.1 ht
      simp only [Draft.signatures, List.mem_append]
      exact Or.inl (Or.inl (Or.inr (List.mem_map_of_mem (hp p hpmem))))
    · exact hr type ht
  rcases List.mem_append.1 ho with ho | ho
  · obtain ⟨e, he, rfl⟩ := List.mem_map.1 ho
    have hheld : (s.id, e) ∈ d.holdings := SymbolTable.mem_held.2 ⟨s, hs, rfl, he⟩
    have hparameters : ∀ p ∈ e.params, p ∈ d.parameters := fun p hp =>
      h.parameters.mem_iff.2 (List.mem_flatMap.2 ⟨_, hheld, hp⟩)
    cases e with
    | property p =>
      have hmem : p ∈ d.properties :=
        h.properties.mem_iff.2 (List.mem_filterMap.2 ⟨_, hheld, rfl⟩)
      intro type ht
      obtain rfl := List.mem_singleton.1 ht
      simp only [Draft.signatures, List.mem_append]
      exact Or.inl (Or.inl (Or.inl (List.mem_map_of_mem hmem)))
    | method m =>
      have hmem : m ∈ d.methods := h.methods.mem_iff.2 (List.mem_filterMap.2 ⟨_, hheld, rfl⟩)
      refine hparams hparameters fun type ht => ?_
      simp only [Draft.signatures, List.mem_append]
      exact Or.inl (Or.inr (List.mem_flatMap.2 ⟨m, hmem, ht⟩))
    | value e => exact absurd rfl (hvalue e.outline)
    | routine r =>
      refine hparams hparameters fun type ht => ?_
      refine List.mem_append_right _ (List.mem_flatMap.2 ⟨s, hs, List.mem_append_right _ ?_⟩)
      have hr := Symbol.routine_mem_entries.1 he
      exact List.mem_flatMap.2 ⟨r, Option.mem_toList.2 hr, ht⟩
  · obtain ⟨option, hoption, rfl⟩ := List.mem_map.1 ho
    intro type ht
    obtain rfl := List.mem_singleton.1 ht
    refine List.mem_append_right _ (List.mem_flatMap.2 ⟨s, hs, List.mem_append_left _ ?_⟩)
    exact List.mem_map_of_mem hoption

namespace Catalog

variable {v : Vocabulary} {files : List (List Text)} {s u : Symbol} {name : Text}

/-- **A name is mentioned in a kept type if and only if it is mentioned in what is known.** -/
theorem mem_mentioned_signatures :
    name ∈ mentioned (draftOf v files).signatures ↔
      ∃ owner o, (owner, .holds o) ∈ (draftOf v files).table.facts ∧
        ∃ type ∈ o.types, ∃ r ∈ type.refs, r.token = name := by
  have hb := Draft.balanced_draftOf v files
  constructor
  · rintro ⟨signature, hmem, hr⟩
    obtain ⟨owner, o, hholds, htype⟩ := hb.exists_holds hmem
    exact ⟨owner, o, hholds, signature, htype, hr⟩
  · rintro ⟨owner, o, hholds, type, htype, r, hr, hname⟩
    have hvalue : ∀ e, o ≠ .value e := by
      rintro e rfl
      obtain ⟨p, -, o', hsaid, heq⟩ := holds_mem_facts_draftOf hholds
      -- values mention nothing
      cases o' <;> cases heq
      rename_i e'
      obtain rfl := List.mem_singleton.1 htype
      have hnone := (Declaration.sound_of_mem_sayings hsaid).refs_value e' rfl
      have hrefs : (e'.map (draftOf v files).table.refer id).type.refs =
          e'.type.refs.map (draftOf v files).table.refer := TypeNode.refs_mapRefs ..
      rw [hrefs, hnone] at hr
      cases hr
    obtain ⟨s, hs, hfact⟩ := List.mem_flatMap.1 hholds
    have ho := Symbol.holds_mem_known.1 (Symbol.mem_facts.1 hfact).2
    exact ⟨type, hb.types_subset_signatures hs ho hvalue htype, r, hr, hname⟩

/-- As `mem_mentioned_signatures`, by names. -/
theorem mem_mentioned_iff (move : Nat → Nat) :
    name ∈ mentioned (draftOf v files).signatures ↔
      ∃ owner o, (owner, .holds o) ∈ (draftOf v files).table.facts.map
          (fun x => (x.1, (draftOf v files).table.unsigned move x.2)) ∧
        ∃ type ∈ o.types, name ∈ type.refs := by
  have htypes {o : Outline Reference} :
      (∃ type ∈ o.types, ∃ r ∈ type.refs, r.token = name) ↔
        ∃ type ∈ (o.map Reference.token move).types, name ∈ type.refs := by
    simp only [Outline.types_map, List.mem_map, exists_exists_and_eq_and, TypeNode.refs_mapRefs]
  rw [mem_mentioned_signatures]
  constructor
  · rintro ⟨owner, o, hholds, hname⟩
    exact ⟨owner, _, List.mem_map.2 ⟨_, hholds, rfl⟩, htypes.1 hname⟩
  · rintro ⟨owner, o, hholds, hname⟩
    obtain ⟨⟨n, fact⟩, hmem, heq⟩ := List.mem_map.1 hholds
    cases fact <;> cases heq
    exact ⟨_, _, hmem, htypes.2 hname⟩

/-- A name is unresolved if it has a symbol and no marker line declares it. -/
theorem exists_mem_unresolved_iff :
    (∃ s ∈ (ofDraft (draftOf v files) files).unresolved, s.name = name) ↔
      name ∈ (draftOf v files).table.names ∧
        ¬∃ file line marker, HasMarker files file line marker ∧
          ∃ kind, marker.declared? = some (kind, name) := by
  constructor
  · rintro ⟨s, hs, rfl⟩
    obtain ⟨hmem, hk⟩ := mem_unresolved.1 hs
    refine ⟨⟨s, hmem, rfl⟩, ?_⟩
    rintro ⟨file, line, marker, hm, kind, hd⟩
    exact not_declared_of_unknown hmem hk hm hd
  · rintro ⟨⟨s, hs, rfl⟩, hnot⟩
    refine ⟨s, mem_unresolved.2 ⟨hs, ?_⟩, rfl⟩
    by_contra hk
    obtain ⟨⟨marker, hm, hd⟩, -⟩ := hasMarker_of_mem hs hk
    exact hnot ⟨_, _, marker, hm, s.kind, hd⟩

/-- What stands behind the edges of an entry. -/
theorem referencer?_of_mem_edges (hu : u ∈ (draftOf v files).table.symbols) {e : Entry}
    (he : e ∈ u.entries) {x : Nat × Edge} (hx : x ∈ e.edges u.id) :
    (ofDraft (draftOf v files) files).referencer? x.2 = some (e.item u) := by
  have hb := Draft.balanced_draftOf v files
  have hheld : (u.id, e) ∈ (draftOf v files).holdings :=
    SymbolTable.mem_held.2 ⟨u, hu, rfl, he⟩
  have hget : (ofDraft (draftOf v files) files).get? u.id = some u :=
    (wellFormed_draftOf v files).get?_eq_some_iff.2 ⟨hu, rfl⟩
  cases e with
  | property p =>
    obtain ⟨-, hedge⟩ := Edge.mem_ofType.1 hx
    have hp : p ∈ (draftOf v files).properties :=
      hb.properties.mem_iff.2 (List.mem_filterMap.2 ⟨_, hheld, rfl⟩)
    have hfound : (ofDraft (draftOf v files) files).property? p.id = some p :=
      (find?_eq_some_iff_of_nodup hb.nodup_ids.2.1).2 ⟨hp, rfl⟩
    rw [hedge, referencer?, hfound]
    rfl
  | method m =>
    have hm : m ∈ (draftOf v files).methods :=
      hb.methods.mem_iff.2 (List.mem_filterMap.2 ⟨_, hheld, rfl⟩)
    have hfound : (ofDraft (draftOf v files) files).method? m.id = some m :=
      (find?_eq_some_iff_of_nodup hb.nodup_ids.1).2 ⟨hm, rfl⟩
    rcases Edge.mem_ofRoutine.1 hx with ⟨hedge, -⟩ | ⟨hedge, -⟩
    · rw [hedge, referencer?, hfound]
      rfl
    · rw [hedge, referencer?, hfound]
      rfl
  | value e => cases hx
  | routine r =>
    -- no method has the number of a symbol
    have hnone : (ofDraft (draftOf v files) files).method? u.id = none := by
      rw [Option.eq_none_iff_forall_not_mem]
      intro m hm
      have hitems := (perm_ids_items v files).nodup_iff.2 List.nodup_range
      have hsymbol : .symbol u ∈ (ofDraft (draftOf v files) files).items := by
        simp only [items, List.mem_append, List.mem_map]
        exact Or.inl (Or.inl (Or.inl (Or.inl ⟨u, hu, rfl⟩)))
      have hmethod : .method m ∈ (ofDraft (draftOf v files) files).items := by
        simp only [items, List.mem_append, List.mem_map]
        exact Or.inl (Or.inl (Or.inl (Or.inr ⟨m, List.mem_of_find?_eq_some hm, rfl⟩)))
      have hid : (Item.symbol u).id = (Item.method m).id :=
        (key_of_find?_eq_some Method.id hm).symm
      cases List.inj_on_of_nodup_map hitems hsymbol hmethod hid
    rcases Edge.mem_ofRoutine.1 hx with ⟨hedge, -⟩ | ⟨hedge, -⟩
    · rw [hedge, referencer?, hnone, hget]
      rfl
    · rw [hedge, referencer?, hget]
      rfl

/-- Edges on a symbol with what stands behind them come from the entries of symbols. -/
theorem mem_referencers (hs : s ∈ (draftOf v files).table.symbols) {x : Edge × Item} :
    x ∈ (ofDraft (draftOf v files) files).referencers s.id ↔
      ∃ u ∈ (draftOf v files).table.symbols, ∃ e ∈ u.entries,
        (s.id, x.1) ∈ e.edges u.id ∧ x.2 = e.item u := by
  have hedges (edge : Edge) : edge ∈ s.references ↔ _ :=
    (Draft.balanced_draftOf v files).mem_references (wellFormed_draftOf v files) hs
  rw [referencers, referencesTo_eq hs, List.mem_filterMap]
  constructor
  · rintro ⟨edge, hedge, hx⟩
    obtain ⟨item, hitem, rfl⟩ := Option.map_eq_some_iff.1 hx
    obtain ⟨u, hu, e, he, hmem⟩ := (hedges edge).1 hedge
    have hfound := referencer?_of_mem_edges hu he hmem
    exact ⟨u, hu, e, he, hmem, Option.some.inj (hitem.symm.trans hfound)⟩
  · rintro ⟨u, hu, e, he, hmem, hitem⟩
    refine ⟨x.1, (hedges x.1).2 ⟨u, hu, e, he, hmem⟩, ?_⟩
    rw [referencer?_of_mem_edges hu he hmem, ← hitem]
    rfl

/-- A mention in what a symbol holds leads to the symbol with the mentioned name. -/
theorem id_eq_iff_token_eq (honce : DeclaredOnce files)
    (hs : s ∈ (draftOf v files).table.symbols) (hu : u ∈ (draftOf v files).table.symbols)
    {o : Outline Reference} (ho : o ∈ u.outlines) {y : EdgeKind × Reference} (hy : y ∈ o.mentions) :
    y.2.id = s.id ↔ y.2.token = s.name := by
  obtain ⟨hvalue, type, htype, hr⟩ := Outline.exists_type_of_mem_mentions hy
  have hmem := (Draft.balanced_draftOf v files).types_subset_signatures hu ho hvalue htype
  obtain ⟨w, hl, hid⟩ := lookup?_of_mem_signatures hmem .self hr
  obtain ⟨hw, hname⟩ := SymbolTable.mem_of_lookup?_eq_some hl
  rw [← hid, ← hname]
  constructor
  · intro heq
    rw [(wellFormed_draftOf v files).eq_of_id_eq hw hs heq]
  · intro heq
    rw [eq_of_name_eq honce hw hs heq]

/-- **Who mentions a symbol, by names**: the mentions are those of its name in what symbols hold. -/
theorem mem_referencers_iff (honce : DeclaredOnce files)
    (hs : s ∈ (draftOf v files).table.symbols) (move : Nat → Nat) {kind : EdgeKind}
    {spot : Text × Nat × Nat} :
    (∃ x ∈ (ofDraft (draftOf v files) files).referencers s.id,
      x.1.kind = kind ∧ x.2.spot move = spot) ↔
      ∃ u ∈ (draftOf v files).table.symbols,
        ∃ o ∈ u.outlines.map (·.map Reference.token move), (kind, s.name) ∈ o.mentions ∧
          o.spot (u.name, move u.file, u.firstLine) = spot := by
  constructor
  · rintro ⟨x, hx, rfl, rfl⟩
    obtain ⟨u, hu, e, he, hedge, hitem⟩ := (mem_referencers hs).1 hx
    obtain ⟨y, hy, heq⟩ := Entry.mem_edges.1 hedge
    obtain ⟨hid, hedge⟩ := Prod.ext_iff.1 heq
    have ho : e.outline ∈ u.outlines := List.mem_append_left _ (List.mem_map_of_mem he)
    refine ⟨u, hu, _, List.mem_map_of_mem ho, ?_, ?_⟩
    · rw [Outline.mentions_map, List.mem_map]
      exact ⟨y, hy, Prod.ext (congrArg Edge.kind hedge).symm
        ((id_eq_iff_token_eq honce hs hu ho hy).1 hid.symm)⟩
    · rw [hitem, Entry.spot_item]
  · rintro ⟨u, hu, o, ho, hmention, rfl⟩
    obtain ⟨outline, houtline, rfl⟩ := List.mem_map.1 ho
    rw [Outline.mentions_map, List.mem_map] at hmention
    obtain ⟨y, hy, heq⟩ := hmention
    obtain ⟨rfl, htoken⟩ := Prod.ext_iff.1 heq
    have hid := (id_eq_iff_token_eq honce hs hu houtline hy).2 htoken
    rcases List.mem_append.1 houtline with hentry | hoption
    · obtain ⟨e, he, rfl⟩ := List.mem_map.1 hentry
      refine ⟨(⟨(e.item u).id, y.1⟩, e.item u), (mem_referencers hs).2 ⟨u, hu, e, he, ?_, rfl⟩, rfl,
        Entry.spot_item move u e⟩
      rw [← hid]
      exact Entry.mem_edges.2 ⟨y, hy, rfl⟩
    · obtain ⟨option, -, rfl⟩ := List.mem_map.1 hoption
      cases hy

end Catalog

end LuaAtlas
