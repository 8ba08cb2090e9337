import LuaAtlas.Proofs.Draft.Step
import Mathlib.Data.List.Perm.Basic

/-!
# The books of a draft

A draft keeps its members in two places: in the symbols that own them and in lists of its own.  It
also has a counter, from which symbols and members are numbered, and edges on the symbols that
members mention.  `Draft.Balanced` says that all of this agrees with what the symbols hold.

`Step.adds` states once what a step adds: at most one entry, with its parameters, its numbers and
its edges (`Draft.Adds`).  That a step keeps the balance follows from this alone
(`Balanced.adds`), so a draft of any files is balanced (`balanced_draftOf`).
-/

namespace LuaAtlas

/-! ### Numbers -/

namespace SymbolTable

variable {t : SymbolTable} {s : Symbol} {others : List Nat} {kind : SymbolKind} {id : Nat}

/-- The numbers below the counter belong to the symbols and to others, each of them once. -/
def Numbered (t : SymbolTable) (others : List Nat) : Prop :=
  (t.symbols.map (·.id) ++ others).Perm (List.range t.nextId)

theorem Numbered.perm {others' : List Nat} (h : t.Numbered others) (hperm : others.Perm others') :
    t.Numbered others' :=
  (hperm.append_left _).symm.trans h

theorem Numbered.fresh (h : t.Numbered others) : t.fresh.1.Numbered (others ++ [t.nextId]) := by
  show (t.symbols.map (·.id) ++ (others ++ [t.nextId])).Perm (List.range (t.nextId + 1))
  rw [List.range_succ, ← List.append_assoc]
  exact List.Perm.append_right _ h

theorem Numbered.create (h : t.Numbered others) (kind : SymbolKind) (name : Text)
    (file line : Nat) : (t.create kind name file line).1.Numbered others := by
  show ((t.create kind name file line).1.symbols.map (·.id) ++ others).Perm
    (List.range (t.nextId + 1))
  rw [symbols_create, List.range_succ, List.map_append, List.append_assoc]
  refine (List.perm_append_comm.append_left _).trans ?_
  rw [← List.append_assoc]
  exact List.Perm.append_right _ h

theorem Numbered.resolve (h : t.Numbered others) (name : Text) (file line : Nat) :
    (t.resolve name file line).1.Numbered others := by
  unfold SymbolTable.resolve
  split
  · exact h
  · exact h.create .unknown name file line

theorem Numbered.modify (h : t.Numbered others) (id : Nat) {f : Symbol → Symbol}
    (hid : ∀ s, (f s).id = s.id) : (t.modify id f).Numbered others := by
  have hids : (t.modify id f).symbols.map (·.id) = t.symbols.map (·.id) := by
    unfold SymbolTable.modify
    rw [List.map_map]
    refine List.map_congr_left fun s _ => ?_
    show (if s.id == id then f s else s).id = s.id
    split
    · exact hid s
    · rfl
  unfold Numbered
  rw [hids]
  exact h

theorem Numbered.declare (h : t.Numbered others) (kind : SymbolKind) (name : Text)
    (file line : Nat) : (t.declare kind name file line).table.Numbered others := by
  unfold SymbolTable.declare
  split
  · exact h
  · split
    · exact h.resolve name file line
    · split
      · exact h.modify _ fun _ => rfl
      · exact h.create kind name file line

theorem Numbered.addEdges (h : t.Numbered others) (hw : t.WellFormed)
    (edges : List (Nat × Edge)) : (t.addEdges edges).1.Numbered others := by
  refine hw.addEdges_induction (P := fun u => u.Numbered others) h ?_ edges
  intro u _ hu id edge
  exact hu.modify id (id_addReference edge)

/-! ### Entries in a table -/

/-- Entries are put into symbols and give rise to edges, of which the given number is new. -/
structure Stores (new : List (Nat × Entry)) (count : Nat) (t t' : SymbolTable) : Prop where
  entries : (t'.held Symbol.entries).Perm (t.held Symbol.entries ++ new)
  references : ∀ x, x ∈ t'.held Symbol.references ↔
    x ∈ t.held Symbol.references ∨ x ∈ new.flatMap fun y => y.2.edges y.1
  count : (t'.held Symbol.references).length = (t.held Symbol.references).length + count

/-- Nothing is stored where nothing that symbols hold is changed. -/
theorem Stores.of_held_eq {t' : SymbolTable}
    (hentries : t'.held Symbol.entries = t.held Symbol.entries)
    (hreferences : t'.held Symbol.references = t.held Symbol.references) : Stores [] 0 t t' := by
  refine ⟨?_, fun x => ?_, ?_⟩
  · rw [hentries, List.append_nil]
  · simp [hreferences]
  · rw [hreferences, Nat.add_zero]

/-- **One symbol gets an entry**, and then the edges of the entry are recorded. -/
theorem WellFormed.stores_modify (h : t.WellFormed) (hs : s ∈ t.symbols) {e : Entry}
    {f : Symbol → Symbol} (hf : Symbol.Keeps f) (hentries : (f s).entries.Perm (s.entries ++ [e]))
    (hreferences : ∀ s, (f s).references = s.references) (hhas : ∀ x ∈ e.edges s.id, t.Has x.1) :
    Stores [(s.id, e)] ((t.modify s.id f).addEdges (e.edges s.id)).2 t
      ((t.modify s.id f).addEdges (e.edges s.id)).1 := by
  have hw := h.modify_of_keeps hf s.id
  have hheld : (t.modify s.id f).held Symbol.references = t.held Symbol.references :=
    held_modify hf.id fun u _ _ => hreferences u
  have hhas' : ∀ x ∈ e.edges s.id, (t.modify s.id f).Has x.1 := by
    intro x hx
    obtain ⟨u, hu, hid⟩ := hhas x hx
    refine ⟨_, mem_symbols_modify.2 ⟨u, hu, rfl⟩, ?_⟩
    split
    · rw [hf.id, hid]
    · exact hid
  refine ⟨?_, fun x => ?_, ?_⟩
  · rw [hw.held_addEdges Symbol.content_entries]
    exact h.held_modify_append hs (hf.id s) hentries
  · rw [hw.mem_held_addEdges hhas', hheld, List.flatMap_singleton]
  · rw [hw.length_held_addEdges hhas', hheld]

/-- The edges of a type that is resolved lead to symbols. -/
theorem Resolves.has_of_mem_ofType {signature : Signature} (h : t.Resolves signature)
    {kind : EdgeKind} {x : Nat × Edge} (hx : x ∈ Edge.ofType kind id signature) : t.Has x.1 := by
  obtain ⟨hmem, -⟩ := Edge.mem_ofType.1 hx
  obtain ⟨r, hr, hid⟩ := List.mem_map.1 hmem
  rw [← hid]
  exact h.has hr

theorem has_of_mem_ofRoutine {r : Routine} (hparams : ∀ p ∈ r.params, t.Resolves p.signature)
    (hreturns : ∀ signature ∈ r.allReturns, t.Resolves signature) {kind : EdgeKind}
    {x : Nat × Edge} (hx : x ∈ Edge.ofRoutine kind id r) : t.Has x.1 := by
  rcases List.mem_append.1 hx with hx | hx
  · obtain ⟨signature, hsignature, hx⟩ := List.mem_flatMap.1 hx
    obtain ⟨p, hp, rfl⟩ := List.mem_map.1 hsignature
    exact (hparams p hp).has_of_mem_ofType hx
  · obtain ⟨signature, hsignature, hx⟩ := List.mem_flatMap.1 hx
    exact (hreturns signature hsignature).has_of_mem_ofType hx

end SymbolTable

/-! ### What a step adds -/

namespace Draft

variable {d d' : Draft} {file owner : Nat} {params : List Member} {others : List Nat}
  {new : List (Nat × Entry)}

/-- **What is added to a draft**: entries, each with its holder.  They are listed with their
parameters, their numbers are taken from the counter, and their edges are recorded and counted. -/
structure Adds (new : List (Nat × Entry)) (d d' : Draft) : Prop where
  properties : d'.properties = d.properties ++ new.filterMap (·.2.property?)
  methods : d'.methods = d.methods ++ new.filterMap (·.2.method?)
  parameters : d'.parameters = d.parameters ++ new.flatMap (·.2.params)
  owned : ∀ x ∈ new, x.2.OwnedBy x.1
  numbered : ∀ others, d.table.Numbered others →
    d'.table.Numbered (others ++ new.flatMap (·.2.ids))
  stores : ∃ count, d'.edgeCount = d.edgeCount + count ∧ d.table.Stores new count d'.table

/-- Numbers are taken from the counter, and symbols keep what they hold. -/
structure Takes (ids : List Nat) (d d' : Draft) : Prop where
  wellFormed : d'.table.WellFormed
  held_eq : ∀ {β : Type} {part : Symbol → List β}, Symbol.Steady part →
    d'.table.held part = d.table.held part
  numbered : ∀ {others : List Nat}, d.table.Numbered others → d'.table.Numbered (others ++ ids)

theorem Takes.trans {d'' : Draft} {ids ids' : List Nat} (h : Takes ids d d')
    (h' : Takes ids' d' d'') : Takes (ids ++ ids') d d'' := by
  refine ⟨h'.wellFormed, fun hp => (h'.held_eq hp).trans (h.held_eq hp), fun hn => ?_⟩
  rw [← List.append_assoc]
  exact h'.numbered (h.numbered hn)

/-- Changes that take no number. -/
theorem Takes.of_numbered (hw : d'.table.WellFormed)
    (hheld : ∀ {β : Type} {part : Symbol → List β}, Symbol.Steady part →
      d'.table.held part = d.table.held part)
    (hnumbered : ∀ {others : List Nat}, d.table.Numbered others → d'.table.Numbered others) :
    Takes [] d d' := by
  refine ⟨hw, hheld, fun hn => ?_⟩
  rw [List.append_nil]
  exact hnumbered hn

theorem takes_fresh (h : d.table.WellFormed) : Takes [d.table.nextId] d d.fresh.1 :=
  ⟨h.fresh, fun _ => rfl, fun hn => hn.fresh⟩

theorem takes_declare (h : d.table.WellFormed) (kind : SymbolKind) (name : Text)
    (file line : Nat) : Takes [] d (d.declare kind name file line).1 :=
  .of_numbered h.declare (fun hp => h.held_declare hp kind name file line)
    fun hn => hn.declare kind name file line

theorem takes_modify (h : d.table.WellFormed) (id : Nat) {f : Symbol → Symbol}
    (hf : Symbol.Keeps f)
    (hpart : ∀ {β : Type} {part : Symbol → List β}, Symbol.Steady part → ∀ s, part (f s) = part s) :
    Takes [] d (d.modify id f) :=
  .of_numbered (h.modify_of_keeps hf id)
    (fun hp => SymbolTable.held_modify hf.id fun s _ _ => hpart hp s) fun hn => hn.modify id hf.id

/-- Reading takes the numbers of the parameters. -/
theorem Collects.takes (hread : Collects file owner params d d') (h : d.table.WellFormed) :
    Takes (params.map (·.id)) d d' := by
  refine ⟨hread.wellFormed h, fun hp => hread.held_eq hp, fun {others} hn => ?_⟩
  clear h
  induction hread with
  | refl =>
    rw [List.map_nil, List.append_nil]
    exact hn
  | report hread issues line ih => exact ih hn
  | resolve hread name line ih => exact (ih hn).resolve name file line
  | parameter hread p hid hparent hresolves ih =>
    rw [List.map_append, ← List.append_assoc, List.map_singleton, hid]
    exact (ih hn).fresh

/-- Steps that add nothing. -/
theorem Adds.of_held_eq (hproperties : d'.properties = d.properties)
    (hmethods : d'.methods = d.methods) (hparameters : d'.parameters = d.parameters)
    (hcount : d'.edgeCount = d.edgeCount)
    (hentries : d'.table.held Symbol.entries = d.table.held Symbol.entries)
    (hreferences : d'.table.held Symbol.references = d.table.held Symbol.references)
    (hnumbered : ∀ others, d.table.Numbered others → d'.table.Numbered others) :
    Adds [] d d' := by
  refine ⟨?_, ?_, ?_, nofun, fun others h => ?_, 0, hcount, .of_held_eq hentries hreferences⟩
  · rw [hproperties, List.filterMap_nil, List.append_nil]
  · rw [hmethods, List.filterMap_nil, List.append_nil]
  · rw [hparameters, List.flatMap_nil, List.append_nil]
  · rw [List.flatMap_nil, List.append_nil]
    exact hnumbered others h

theorem Takes.adds (h : Takes [] d d') (hproperties : d'.properties = d.properties)
    (hmethods : d'.methods = d.methods) (hparameters : d'.parameters = d.parameters)
    (hcount : d'.edgeCount = d.edgeCount) : Adds [] d d' := by
  refine .of_held_eq hproperties hmethods hparameters hcount
    (h.held_eq Symbol.content_entries.steady) (h.held_eq Symbol.steady_references)
    fun others hn => ?_
  have hafter := h.numbered hn
  rw [List.append_nil] at hafter
  exact hafter

/-- Steps that put an entry into a symbol, after its numbers were taken. -/
theorem Takes.adds_stored {d₁ : Draft} {s : Symbol} {e : Entry} {f : Symbol → Symbol}
    (h : Takes e.ids d d₁) (hs : s ∈ d₁.table.symbols) (hf : Symbol.Keeps f)
    (hentries : (f s).entries.Perm (s.entries ++ [e]))
    (hreferences : ∀ s, (f s).references = s.references)
    (hhas : ∀ x ∈ e.edges s.id, d₁.table.Has x.1) (howned : e.OwnedBy s.id)
    (hproperties : d'.properties = d.properties ++ e.property?.toList)
    (hmethods : d'.methods = d.methods ++ e.method?.toList)
    (hparameters : d'.parameters = d.parameters ++ e.params)
    (htable : d'.table = ((d₁.table.modify s.id f).addEdges (e.edges s.id)).1)
    (hcount : d'.edgeCount = d.edgeCount +
      ((d₁.table.modify s.id f).addEdges (e.edges s.id)).2) :
    Adds [(s.id, e)] d d' := by
  refine ⟨?_, ?_, ?_, ?_, fun others hn => ?_, _, hcount, ?_⟩
  · rw [hproperties]
    cases e <;> rfl
  · rw [hmethods]
    cases e <;> rfl
  · rw [hparameters, List.flatMap_singleton]
  · intro x hx
    rw [List.mem_singleton] at hx
    subst hx
    exact howned
  · rw [htable, List.flatMap_singleton]
    exact ((h.numbered hn).modify s.id hf.id).addEdges (h.wellFormed.modify_of_keeps hf s.id) _
  · obtain ⟨hentries, hrefs, hlength⟩ :=
      h.wellFormed.stores_modify hs hf hentries hreferences hhas
    rw [h.held_eq Symbol.content_entries.steady] at hentries
    rw [h.held_eq Symbol.steady_references] at hlength
    simp only [h.held_eq Symbol.steady_references] at hrefs
    rw [htable]
    exact ⟨hentries, hrefs, hlength⟩

/-- **What one step adds**: a property, a method, a function or a value, or nothing at all. -/
theorem Step.adds (hstep : Step file d d') (h : d.table.WellFormed) : ∃ new, Adds new d d' := by
  cases hstep with
  | read hread =>
    obtain ⟨hproperties, hmethods, hcount⟩ := hread.lists_eq
    have hparameters := hread.parameters_eq
    rw [List.append_nil] at hparameters
    exact ⟨[], (hread.takes h).adds hproperties hmethods hparameters hcount⟩
  | declare hunknown hfunction name line =>
    exact ⟨[], (takes_declare h _ name file line).adds rfl rfl rfl rfl⟩
  | link id parent hne =>
    have hparent := takes_modify h id (Symbol.spares_setParent parent).toKeeps
      fun hp s => hp.setParent s (some parent)
    have hchild := takes_modify hparent.wellFormed parent (Symbol.spares_addChild id).toKeeps
      fun hp s => hp.addChild s id
    exact ⟨[], (hparent.trans hchild).adds rfl rfl rfl rfl⟩
  | lastLine id line lastLine =>
    refine ⟨[], (takes_modify h id (Symbol.spares_setLastLine file line lastLine).toKeeps
      fun hp s => ?_).adds rfl rfl rfl rfl⟩
    split
    · exact hp.setLastLine s lastLine
    · rfl
  | property p hid hparent hresolves =>
    obtain ⟨s, hs, hsid, hk⟩ := hparent
    have htakes : Takes (Entry.property p).ids d d.fresh.1 := by
      show Takes [p.id] d d.fresh.1
      rw [hid]
      exact takes_fresh h
    have howned : (Entry.property p).OwnedBy s.id := hsid.symm
    refine ⟨_, htakes.adds_stored hs (Symbol.spares_addProperty p).toKeeps
      (Symbol.entries_addProperty hk p) (fun _ => rfl) (fun x hx => hresolves.has_of_mem_ofType hx)
      howned rfl (List.append_nil _).symm (List.append_nil _).symm ?_ ?_⟩
    · rw [hsid]
      rfl
    · rw [hsid]
      rfl
  | method d₁ m hid hparent hread hresolves =>
    obtain ⟨s, hs, hsid, hk⟩ := hparent
    -- the number of the method is taken before those of its parameters
    have htakes : Takes (Entry.method m).ids d d₁ := by
      have hfresh := takes_fresh h
      rw [← hid] at hfresh
      exact hfresh.trans (hread.takes h.fresh)
    have howned : (Entry.method m).OwnedBy s.id := ⟨hsid.symm, fun p hp => (hread.of_mem hp).1⟩
    obtain ⟨hproperties, hmethods, hcount⟩ := hread.lists_eq
    refine ⟨_, htakes.adds_stored (hread.symbols_subset hs) (Symbol.spares_addMethod m).toKeeps
      (.of_eq (Symbol.entries_addMethod hk m)) (fun _ => rfl) (fun x hx => ?_) howned
      (hproperties.trans (List.append_nil _).symm) ?_ hread.parameters_eq ?_ ?_⟩
    · exact SymbolTable.has_of_mem_ofRoutine (fun p hp => (hread.of_mem hp).2) hresolves hx
    · exact congrArg (· ++ [m]) hmethods
    · rw [hsid]
      rfl
    · rw [hsid]
      exact congrArg (· + _) hcount
  | function d₁ name line s r hs hid hkind hnone hread hresolves =>
    have htakes : Takes (Entry.routine r).ids d d₁ :=
      (takes_declare h .functionKind name file line).trans (hread.takes h.declare)
    have howned : (Entry.routine r).OwnedBy s.id := fun p hp => (hread.of_mem hp).1
    obtain ⟨hproperties, hmethods, hcount⟩ := hread.lists_eq
    refine ⟨_, htakes.adds_stored (hread.symbols_subset hs)
      (Symbol.keeps_mapBody (Body.kind_setRoutine r))
      (.of_eq (Symbol.entries_setRoutine hkind hnone r)) (fun _ => rfl) (fun x hx => ?_) howned
      (hproperties.trans (List.append_nil _).symm) (hmethods.trans (List.append_nil _).symm)
      hread.parameters_eq rfl ?_⟩
    · exact SymbolTable.has_of_mem_ofRoutine (fun p hp => (hread.of_mem hp).2) hresolves hx
    · exact congrArg (· + _) hcount
  | value value hid hparent =>
    obtain ⟨s, hs, hsid, hk⟩ := hparent
    have htakes : Takes (Entry.value value).ids d d.fresh.1 := by
      show Takes [value.id] d d.fresh.1
      rw [hid]
      exact takes_fresh h
    have howned : (Entry.value value).OwnedBy s.id := hsid.symm
    refine ⟨_, htakes.adds_stored hs (Symbol.spares_addValue value).toKeeps
      (.of_eq (Symbol.entries_addValue hk value)) (fun _ => rfl) nofun howned
      (List.append_nil _).symm (List.append_nil _).symm (List.append_nil _).symm ?_ rfl⟩
    rw [hsid]
    rfl
  | option option hparent hresolves =>
    have hkeeps := Symbol.keeps_mapBody (Body.kind_addOption option)
    exact ⟨[], .of_held_eq rfl rfl rfl rfl
      (SymbolTable.held_modify hkeeps.id fun s _ _ => Symbol.entries_addOption option s)
      (SymbolTable.held_modify hkeeps.id fun _ _ _ => rfl)
      fun others hn => hn.modify _ hkeeps.id⟩

/-! ### The balance -/

/-- What the symbols of a draft hold, each entry with the number of its holder. -/
def holdings (d : Draft) : List (Nat × Entry) := d.table.held Symbol.entries

/-- **The books of a draft agree with what its symbols hold.** -/
structure Balanced (d : Draft) : Prop where
  properties : d.properties.Perm (d.holdings.filterMap (·.2.property?))
  methods : d.methods.Perm (d.holdings.filterMap (·.2.method?))
  parameters : d.parameters.Perm (d.holdings.flatMap (·.2.params))
  owned : ∀ x ∈ d.holdings, x.2.OwnedBy x.1
  numbered : d.table.Numbered (d.holdings.flatMap (·.2.ids))
  references : ∀ x, x ∈ d.table.held Symbol.references ↔
    x ∈ d.holdings.flatMap fun y => y.2.edges y.1
  edgeCount : d.edgeCount = (d.table.held Symbol.references).length

theorem balanced_empty : Balanced {} :=
  ⟨.refl _, .refl _, .refl _, nofun, .refl _, fun _ => .rfl, rfl⟩

/-- Additions keep the balance. -/
theorem Balanced.adds (h : Balanced d) (hadds : Adds new d d') : Balanced d' := by
  obtain ⟨count, hcount, hentries, hreferences, hlength⟩ := hadds.stores
  have hholdings : d'.holdings.Perm (d.holdings ++ new) := hentries
  refine ⟨?_, ?_, ?_, ?_, ?_, fun x => ?_, ?_⟩
  · have hperm := hholdings.filterMap (·.2.property?)
    rw [List.filterMap_append] at hperm
    rw [hadds.properties]
    exact (h.properties.append_right _).trans hperm.symm
  · have hperm := hholdings.filterMap (·.2.method?)
    rw [List.filterMap_append] at hperm
    rw [hadds.methods]
    exact (h.methods.append_right _).trans hperm.symm
  · have hperm := hholdings.flatMap_right (·.2.params)
    rw [List.flatMap_append] at hperm
    rw [hadds.parameters]
    exact (h.parameters.append_right _).trans hperm.symm
  · intro x hx
    rcases List.mem_append.1 (hholdings.mem_iff.1 hx) with hx | hx
    · exact h.owned x hx
    · exact hadds.owned x hx
  · have hperm := hholdings.flatMap_right (·.2.ids)
    rw [List.flatMap_append] at hperm
    exact (hadds.numbered _ h.numbered).perm hperm.symm
  · rw [hreferences, h.references, (hholdings.flatMap_right _).mem_iff, List.flatMap_append,
      List.mem_append]
  · rw [hcount, hlength, h.edgeCount]

/-- **The draft of any files is balanced.** -/
theorem balanced_draftOf (v : Vocabulary) (files : List (List Text)) :
    Balanced (Catalog.draftOf v files) := by
  refine draftOf_induction v balanced_empty (fun hw h hstep => ?_) files
  obtain ⟨new, hadds⟩ := hstep.adds hw
  exact h.adds hadds

/-! The lists of a balanced draft hold what its symbols hold. -/

theorem Balanced.perm_properties (h : Balanced d) :
    d.properties.Perm (d.table.symbols.flatMap (·.properties)) := by
  have hperm := h.properties
  rw [holdings, SymbolTable.filterMap_held] at hperm
  simp only [Symbol.filterMap_property?_entries] at hperm
  exact hperm

theorem Balanced.perm_methods (h : Balanced d) :
    d.methods.Perm (d.table.symbols.flatMap (·.methods)) := by
  have hperm := h.methods
  rw [holdings, SymbolTable.filterMap_held] at hperm
  simp only [Symbol.filterMap_method?_entries] at hperm
  exact hperm

/-- The parameters of methods and those of global functions. -/
theorem Balanced.perm_parameters (h : Balanced d) :
    d.parameters.Perm (d.methods.flatMap (·.routine.params) ++
      d.table.symbols.flatMap fun s => s.routine?.toList.flatMap (·.params)) := by
  have hperm := h.parameters
  rw [holdings, SymbolTable.flatMap_held] at hperm
  simp only [Symbol.flatMap_params_entries] at hperm
  refine hperm.trans ((List.flatMap_append_perm _ _ _).symm.trans (List.Perm.append_right _ ?_))
  rw [← List.flatMap_assoc]
  exact (h.perm_methods.flatMap_right _).symm

end Draft

end LuaAtlas
