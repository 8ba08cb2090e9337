import LuaAtlas.Proofs.Catalog.Known
import LuaAtlas.Proofs.Catalog.Lookup
import LuaAtlas.Proofs.Draft.Filling

/-!
# Parents and children

A class marker may name a parent.  It then makes a link from the class to the parent, unless the two
are the same symbol, and the link is written in two places: as the parent of the class, where it
takes the place of an earlier one, and among the children of the parent, where it stays.

`Draft.Linked` compares a draft with the list of all links so far: a symbol has the parent of its
last link, and its children are those of all links to it.  Only `linkParent` adds a link
(`Linked.linkParent`); everything else leaves the links alone (`Linked.of_held_eq`).

`Catalog.ofTexts_links` says what follows for a catalogue.  The two directions agree where the last
parent of a class is its only one, but not where a class is opened again with another parent
(`Catalog.children_of_reopened_class`).
-/

namespace LuaAtlas

/-! ### Links in marker lines -/

/-- The class and the parent that a marker links. -/
def Marker.link? : Marker → Option (Text × Text)
  | classDef name parent => parent.map (name, ·)
  | _ => none

/-- The links that marker lines make, in order. -/
def Mark.links (marks : List Mark) : List (Text × Text) := marks.filterMap (·.marker.link?)

theorem Mark.links_append (marks later : List Mark) :
    links (marks ++ later) = links marks ++ links later :=
  List.filterMap_append

/-- The methods in a class make no links. -/
theorem Mark.links_dispatched (file : Nat) (x : Declaration) :
    links (inFile file x.dispatched) = x.link?.toList := by
  have hitems (items : List ClassItem) :
      links (inFile file (items.flatMap ClassItem.dispatched)) = [] := by
    induction items with
    | nil => rfl
    | cons item items ih => cases item <;> exact ih
  cases x with
  | classDecl line lastLine name parent items =>
    refine (links_append [⟨file, line, .classDef name parent⟩] _).trans ?_
    rw [← inFile, hitems, List.append_nil]
    cases parent <;> rfl
  | _ => rfl

/-- The marker lines of files are those that their declarations come from. -/
theorem Mark.ofFiles_eq_flatMap (first : Nat) (files : List (List Text)) :
    ofFiles first files =
      (Declaration.ofFiles files first).flatMap fun p => inFile p.1 p.2.dispatched := by
  induction files generalizing first with
  | nil => rfl
  | cons lines rest ih =>
    rw [ofFiles, ih, Declaration.ofFiles, Declaration.ofFiles, List.zipIdx_cons,
      List.flatMap_cons, List.flatMap_append, List.flatMap_map]
    congr 1
    show inFile first (markersFrom 1 lines) =
      (Declaration.ofLines lines).flatMap fun x => inFile first x.dispatched
    unfold inFile
    rw [← List.map_flatMap, Declaration.ofLines, Declaration.dispatched_scan]

/-! ### Links between symbols -/

namespace Symbol

/-- A part of symbols that depends on their links alone. -/
structure Tie {β : Type} (part : Symbol → List β) : Prop where
  congr : ∀ {s u : Symbol}, s.parent = u.parent → s.children = u.children → part s = part u
  empty : ∀ {s : Symbol}, s.parent = none → s.children = [] → part s = []

/-- The parent of a symbol, if it has one. -/
def parents (s : Symbol) : List Nat := s.parent.toList

theorem tie_parents : Tie Symbol.parents where
  congr hparent _ := by rw [parents, hparent, ← parents]
  empty hparent _ := by rw [parents, hparent]; rfl

theorem tie_children : Tie Symbol.children where
  congr _ hchildren := hchildren
  empty _ hchildren := hchildren

variable {β : Type} {part : Symbol → List β}

theorem Tie.outer (h : Tie part) : Outer part where
  unknown _ _ _ _ := h.empty rfl rfl
  mapBody _ _ _ := h.congr rfl rfl
  addReference s edge := by
    unfold addReference
    split
    · rfl
    · exact h.congr rfl rfl

end Symbol

namespace SymbolTable

variable {t : SymbolTable} {links : List (Nat × Nat)}

theorem held_declare_of_tie {β : Type} {part : Symbol → List β} (hp : Symbol.Tie part)
    {kind : SymbolKind} (hk : kind ≠ .unknown) (name : Text) (file line : Nat) :
    (t.declare kind name file line).table.held part = t.held part := by
  rcases t.declare_cases hk name file line with ⟨s, -, he⟩ | ⟨s, -, -, he⟩ | ⟨-, -, he⟩ <;>
    rw [he]
  · exact held_modify (fun _ => rfl) fun _ _ _ => hp.congr rfl rfl
  · unfold held
    rw [symbols_create, List.flatMap_append, List.flatMap_singleton, hp.empty rfl rfl,
      List.map_nil, List.append_nil]

/-- The numbers of the class and the parent that a link is about.  A class is not linked to
itself. -/
def linkOf? (t : SymbolTable) (link : Text × Text) : Option (Nat × Nat) :=
  match t.find? link.1 .classKind, t.lookup? link.2 with
  | some s, some p => if p.id = s.id then none else some (s.id, p.id)
  | _, _ => none

end SymbolTable

/-- The parent that links last give to the symbol with a number. -/
def lastParent? (links : List (Nat × Nat)) (id : Nat) : Option Nat :=
  ((links.filter (·.1 == id)).map (·.2)).getLast?

theorem lastParent?_append (links : List (Nat × Nat)) (id parent i : Nat) :
    lastParent? (links ++ [(id, parent)]) i =
      if id = i then some parent else lastParent? links i := by
  unfold lastParent?
  rw [List.filter_append, List.map_append, List.getLast?_append, List.filter_singleton]
  by_cases h : id = i
  · simp [h]
  · have hne : (id == i) = false := beq_false_of_ne h
    simp [h, hne]

namespace Draft

variable {v : Vocabulary} {d d' : Draft} {T : SymbolTable} {links : List (Nat × Nat)}
  {names : List (Text × Text)} {file : Nat}

/-- **A draft with the given links**, each from a class to its parent, in the order of their
making. -/
structure Linked (links : List (Nat × Nat)) (d : Draft) : Prop where
  /-- A symbol has the parent of its last link. -/
  parent : ∀ i p, (i, p) ∈ d.table.held Symbol.parents ↔ lastParent? links i = some p
  /-- A symbol has the children of all links to it. -/
  children : ∀ i c, (i, c) ∈ d.table.held Symbol.children ↔ (c, i) ∈ links
  nodup : (d.table.held Symbol.children).Nodup

theorem linked_empty : Linked [] {} :=
  ⟨fun _ _ => ⟨nofun, nofun⟩, fun _ _ => ⟨nofun, nofun⟩, .nil⟩

/-- What leaves the links of symbols alone. -/
theorem Linked.of_held_eq (h : Linked links d)
    (heq : ∀ {β : Type} {part : Symbol → List β}, Symbol.Tie part →
      d'.table.held part = d.table.held part) : Linked links d' := by
  have hparents := heq Symbol.tie_parents
  have hchildren := heq Symbol.tie_children
  refine ⟨?_, ?_, ?_⟩
  · rw [hparents]
    exact h.parent
  · rw [hchildren]
    exact h.children
  · rw [hchildren]
    exact h.nodup

theorem Linked.fills (h : Linked links d) (hfills : Fills d d') : Linked links d' :=
  h.of_held_eq fun hp => hfills.held_eq hp.outer

theorem Linked.declare (h : Linked links d) {kind : SymbolKind} (hk : kind ≠ .unknown)
    (name : Text) (line : Nat) : Linked links (d.declare kind name file line).1 :=
  h.of_held_eq fun hp => SymbolTable.held_declare_of_tie hp hk name file line

theorem Linked.setLastLine (h : Linked links d) (id line lastLine : Nat) :
    Linked links (d.setLastLine id file line lastLine) := by
  refine h.of_held_eq fun hp => SymbolTable.held_modify
    (Symbol.spares_setLastLine file line lastLine).id fun s _ _ => ?_
  split
  · exact hp.congr rfl rfl
  · rfl

/-! ### Linking -/

theorem mem_held_parents_setParent {id parent i p : Nat} (hid : d.table.Has id) :
    (i, p) ∈ (d.modify id ({ · with parent := some parent })).table.held Symbol.parents ↔
      if id = i then parent = p else (i, p) ∈ d.table.held Symbol.parents := by
  rw [SymbolTable.mem_held]
  constructor
  · rintro ⟨u, hu, rfl, hp⟩
    obtain ⟨s, hs, rfl⟩ := SymbolTable.mem_symbols_modify.1 hu
    by_cases hs' : s.id = id
    · simp only [hs', ↓reduceIte, Symbol.parents, Option.toList_some, List.mem_singleton] at hp ⊢
      exact hp.symm
    · simp only [hs', Ne.symm hs', ↓reduceIte] at hp ⊢
      exact SymbolTable.mem_held.2 ⟨s, hs, rfl, hp⟩
  · intro h
    split at h
    · rename_i hi
      obtain ⟨s, hs, hsid⟩ := hid
      refine ⟨_, SymbolTable.mem_symbols_modify.2 ⟨s, hs, rfl⟩, ?_⟩
      simp only [hsid, ↓reduceIte]
      exact ⟨hi, by simp [Symbol.parents, h]⟩
    · rename_i hi
      obtain ⟨s, hs, hsid, hp⟩ := SymbolTable.mem_held.1 h
      have hne : s.id ≠ id := fun he => hi (he.symm.trans hsid)
      refine ⟨_, SymbolTable.mem_symbols_modify.2 ⟨s, hs, rfl⟩, ?_⟩
      simp only [hne, ↓reduceIte]
      exact ⟨hsid, hp⟩

/-- A symbol gets a child, unless it has it. -/
theorem held_children_addChild (h : d.table.WellFormed) {parent : Nat}
    (hparent : d.table.Has parent) (child : Nat) :
    ∃ new, ((d.modify parent (·.addChild child)).table.held Symbol.children).Perm
        (d.table.held Symbol.children ++ new) ∧
      (new = [] ∧ (parent, child) ∈ d.table.held Symbol.children ∨
        new = [(parent, child)] ∧ (parent, child) ∉ d.table.held Symbol.children) := by
  obtain ⟨s, hs, rfl⟩ := hparent
  have hid := (Symbol.spares_addChild child).id s
  by_cases hmem : child ∈ s.children
  · have hstays : (s.addChild child).children = s.children ++ [] := by
      rw [Symbol.addChild, ite_cond_eq_true _ _ (eq_true (by simpa using hmem)), List.append_nil]
    exact ⟨[], h.held_modify_append hs hid (.of_eq hstays),
      Or.inl ⟨rfl, (h.mem_held_iff hs).2 hmem⟩⟩
  · have hadds : (s.addChild child).children = s.children ++ [child] := by
      rw [Symbol.addChild, ite_cond_eq_false _ _ (eq_false (by simpa using hmem))]
    exact ⟨[(s.id, child)], h.held_modify_append hs hid (.of_eq hadds),
      Or.inr ⟨rfl, fun hheld => hmem ((h.mem_held_iff hs).1 hheld)⟩⟩

/-- **A link is written in both directions.** -/
theorem Linked.linkParent (h : Linked links d) (hw : d.table.WellFormed) {id parent : Nat}
    (hid : d.table.Has id) (hparent : d.table.Has parent) (name : Text) (line : Nat) :
    Linked (links ++ if parent = id then [] else [(id, parent)])
      (d.linkParent id parent name file line) := by
  unfold Draft.linkParent
  split
  · rw [List.append_nil]
    exact h.of_held_eq fun _ => rfl
  · let named := d.modify id ({ · with parent := some parent })
    have hnamed : named.table.WellFormed :=
      (quiet_modify hw (Symbol.spares_setParent parent) id).wellFormed
    have hhas : named.table.Has parent := by
      obtain ⟨s, hs, hsid⟩ := hparent
      refine ⟨_, SymbolTable.mem_symbols_modify.2 ⟨s, hs, rfl⟩, ?_⟩
      split <;> exact hsid
    -- the parent is written first, which leaves the children alone, and then the child
    have hparents : (named.modify parent (·.addChild id)).table.held Symbol.parents =
        named.table.held Symbol.parents := by
      refine SymbolTable.held_modify (Symbol.spares_addChild id).id fun s _ _ => ?_
      unfold Symbol.addChild
      split <;> rfl
    have hchildren : named.table.held Symbol.children = d.table.held Symbol.children :=
      SymbolTable.held_modify (fun _ => rfl) fun _ _ _ => rfl
    obtain ⟨new, hperm, hnew⟩ := held_children_addChild hnamed hhas id
    rw [hchildren] at hperm hnew
    refine ⟨fun i p => ?_, fun i c => ?_, ?_⟩
    · rw [hparents, mem_held_parents_setParent hid, lastParent?_append]
      split
      · rw [Option.some.injEq]
      · exact h.parent i p
    · rw [hperm.mem_iff, List.mem_append, List.mem_append, ← h.children, List.mem_singleton,
        Prod.mk.injEq]
      rcases hnew with ⟨rfl, hmem⟩ | ⟨rfl, -⟩
      · constructor
        · rintro (hold | hnone)
          · exact Or.inl hold
          · cases hnone
        · rintro (hold | ⟨rfl, rfl⟩)
          · exact Or.inl hold
          · exact Or.inl hmem
      · rw [List.mem_singleton, Prod.mk.injEq, and_comm (a := i = parent)]
    · rw [hperm.nodup_iff]
      rcases hnew with ⟨rfl, -⟩ | ⟨rfl, hnot⟩
      · rw [List.append_nil]
        exact h.nodup
      · refine List.nodup_append.2 ⟨h.nodup, List.nodup_singleton _, fun a ha b hb => ?_⟩
        rw [List.mem_singleton] at hb
        rintro rfl
        exact hnot (hb ▸ ha)

/-! ### Declarations -/

/-- What a class marker names stands for the same symbols later on. -/
theorem linkOf?_eq (hw : d.table.WellFormed) {name parent : Text} {line : Nat}
    (hT : ((d.resolve parent file line).1.declare .classKind name file line).1.Before T) :
    T.linkOf? (name, parent) =
      if (d.resolve parent file line).2 =
          ((d.resolve parent file line).1.declare .classKind name file line).2 then none
      else some (((d.resolve parent file line).1.declare .classKind name file line).2,
        (d.resolve parent file line).2) := by
  let used := (d.resolve parent file line).1
  have hused : used.table.WellFormed := hw.resolve
  have hk : SymbolKind.classKind ≠ .unknown := by decide
  obtain ⟨u, hu, huid, huk, hun⟩ :=
    hT.owns hk (hused.owns_declare .classKind hk name file line)
  have hfind : T.find? name .classKind = some u :=
    hT.wellFormed.find?_eq_some_iff.2 ⟨hu, hun, huk⟩
  have hbefore : used.Before T := (extends_declare hused .classKind name file line).table.trans hT
  obtain ⟨p, hp, hpid⟩ := d.table.lookup?_resolve parent file line
  obtain ⟨p', hp', hext⟩ := hbefore.lookup?_eq_some hused hp
  unfold SymbolTable.linkOf?
  simp only [hfind, hp', hext.id, hpid, huid]
  rfl

/-- **A declaration makes its link.** -/
theorem Linked.enter (h : Linked links d) (hw : d.table.WellFormed) (x : Declaration)
    (hT : (d.enter v file x).Before T) :
    Linked (links ++ (x.link?.bind T.linkOf?).toList) (d.enter v file x) := by
  have hentered := entered_enter v file hw x
  have hnone (hlink : x.link? = none) : links ++ (x.link?.bind T.linkOf?).toList = links := by
    rw [hlink, Option.bind_none, Option.toList_none, List.append_nil]
  generalize d.enter v file x = d' at hentered hT
  cases hentered with
  | method hfills hspan hlink =>
    rw [hnone hlink]
    exact h.fills hfills
  | line hk hfills hspan hlink =>
    rw [hnone hlink]
    exact (h.declare hk _ _).fills hfills
  | block hk hfills hspan hlink =>
    rw [hnone hlink]
    exact ((h.declare hk _ _).fills hfills).setLastLine _ _ _
  | @child name parent line lastLine used declared filled hused hdeclared hfills hextends hspan
      hlink =>
    subst hused hdeclared
    let used := d.resolve parent file line
    let declared := used.1.declare .classKind name file line
    have hk : SymbolKind.classKind ≠ .unknown := by decide
    have hread : Collects file 0 [] d used.1 := (Collects.refl d).resolve parent line
    have hused : used.1.table.WellFormed := hw.resolve
    have hdeclared : declared.1.table.WellFormed := hused.declare
    have hclass : declared.1.table.Has declared.2 := by
      obtain ⟨s, hs, hid, -, -⟩ := hused.owns_declare .classKind hk name file line
      exact ⟨s, hs, hid⟩
    have hparent : declared.1.table.Has used.2 := by
      obtain ⟨p, hp, hpid⟩ := d.table.lookup?_resolve parent file line
      have hext : Extends ∅ used.1 declared.1 := extends_declare hused .classKind name file line
      obtain ⟨p', hp', hpext⟩ := hext.table.exists_mem (SymbolTable.mem_of_lookup?_eq_some hp).1
      exact ⟨p', hp', hpext.id.trans hpid⟩
    have hlinked : Linked (links ++ if used.2 = declared.2 then [] else [(declared.2, used.2)])
        (declared.1.linkParent declared.2 used.2 name file line) :=
      ((h.fills (hread.fills hw)).declare hk name line).linkParent hdeclared hclass hparent name line
    -- the link is between the numbers that the names have in the end
    have hnumbers : (x.link?.bind T.linkOf?).toList =
        if used.2 = declared.2 then [] else [(declared.2, used.2)] := by
      rw [hlink, Option.bind_some, linkOf?_eq hw (hextends.table.trans hT)]
      split <;> rfl
    rw [hnumbers]
    exact (hlinked.fills hfills).setLastLine _ line lastLine

theorem Linked.enterAll (h : Linked links d) (hw : d.table.WellFormed)
    (declarations : List (Nat × Declaration)) (hT : (d.enterAll v declarations).Before T) :
    Linked (links ++ declarations.flatMap fun p => (p.2.link?.bind T.linkOf?).toList)
      (d.enterAll v declarations) := by
  induction declarations generalizing d links with
  | nil =>
    rw [List.flatMap_nil, List.append_nil]
    exact h
  | cons p declarations ih =>
    have hone := (steps_enter v p.1 hw p.2).extends hw (Set.mem_univ p.1)
    have hbefore := (extends_enterAll v hone.wellFormed declarations).table.trans hT
    rw [List.flatMap_cons, ← List.append_assoc]
    exact ih (h.enter hw p.2 hbefore) hone.wellFormed hT

end Draft

namespace Catalog

variable {v : Vocabulary} {files : List (List Text)} {s p : Symbol}

/-- The links of all marker lines, in order, are the links of the draft. -/
theorem linked_draftOf (v : Vocabulary) (files : List (List Text)) :
    Draft.Linked ((Mark.links (Mark.ofFiles 0 files)).filterMap (draftOf v files).table.linkOf?)
      (draftOf v files) := by
  have hbefore : (draftOf v files).Before (draftOf v files).table :=
    .of_symbols_eq (wellFormed_draftOf v files) rfl
  generalize hT : (draftOf v files).table = T at hbefore
  have hlinks : (Mark.links (Mark.ofFiles 0 files)).filterMap T.linkOf? =
      (Declaration.ofFiles files).flatMap fun p => (p.2.link?.bind T.linkOf?).toList := by
    have hone (o : Option (Text × Text)) :
        o.toList.filterMap T.linkOf? = (o.bind T.linkOf?).toList := by
      cases o with
      | none => rfl
      | some link => cases hlink : T.linkOf? link <;> simp [hlink]
    unfold Mark.links
    rw [Mark.ofFiles_eq_flatMap, List.filterMap_flatMap, List.filterMap_flatMap]
    refine List.flatMap_congr fun p _ => ?_
    rw [← hone, ← Mark.links_dispatched p.1]
    rfl
  rw [hlinks]
  rw [draftOf_eq_enterAll] at hbefore ⊢
  exact Draft.linked_empty.enterAll SymbolTable.wellFormed_empty _ hbefore

/-- **The parents that class markers give to a class**, by number and in order.  A class is not a
parent of its own. -/
def parentsNamed (c : Catalog) (links : List (Text × Text)) (s : Symbol) : List Nat :=
  ((links.filter (·.1 == s.name)).filterMap fun link =>
    (Answer.named? c link.2).map (·.id)).filter (· != s.id)

/-- They are the parents in the links of the class. -/
theorem parentsNamed_eq (hs : s ∈ (draftOf v files).table.symbols) (hk : s.kind = .classKind)
    (links : List (Text × Text)) :
    (ofDraft (draftOf v files) files).parentsNamed links s =
      ((links.filterMap (draftOf v files).table.linkOf?).filter (·.1 == s.id)).map (·.2) := by
  have hw := wellFormed_draftOf v files
  unfold parentsNamed
  rw [List.filterMap_filter, List.filter_filterMap, List.filter_filterMap, List.map_filterMap]
  refine List.filterMap_congr fun link _ => ?_
  rw [named?_eq_lookup? hw]
  unfold SymbolTable.linkOf?
  by_cases hname : link.1 = s.name
  · -- a link of the class itself: both sides keep its parent unless that is the class
    have hfind : (draftOf v files).table.find? link.1 .classKind = some s :=
      hw.find?_eq_some_iff.2 ⟨hs, hname.symm, hk⟩
    rw [hfind]
    cases (draftOf v files).table.lookup? link.2 with
    | none => simp
    | some p =>
      by_cases hself : p.id = s.id
      · simp [hname, hself]
      · simp [hname, hself, Option.filter]
  · -- a link of another class, whose number is another one
    cases hfind : (draftOf v files).table.find? link.1 .classKind with
    | none => simp [hname]
    | some u =>
      obtain ⟨hu, hun, -⟩ := SymbolTable.mem_of_find?_eq_some hfind
      have hne : u.id ≠ s.id := by
        intro hid
        rw [hw.eq_of_id_eq hu hs hid] at hun
        exact hname hun.symm
      cases (draftOf v files).table.lookup? link.2 with
      | none => simp [hname]
      | some p =>
        by_cases hself : p.id = u.id
        · simp [hname, hself]
        · simp [hname, hself, hne, Option.filter]

/-- The children of a symbol are the classes that were linked to it, each once. -/
theorem mem_children_iff (hs : s ∈ (draftOf v files).table.symbols) (hk : s.kind = .classKind)
    (hp : p ∈ (draftOf v files).table.symbols) :
    s.id ∈ p.children ↔ p.id ∈ (ofDraft (draftOf v files) files).parentsNamed
      (Mark.links (Mark.ofFiles 0 files)) s := by
  have hheld : (p.id, s.id) ∈ (draftOf v files).table.held Symbol.children ↔ s.id ∈ p.children :=
    (wellFormed_draftOf v files).mem_held_iff hp
  rw [← hheld, (linked_draftOf v files).children, parentsNamed_eq hs hk, List.mem_map]
  constructor
  · intro hmem
    exact ⟨(s.id, p.id), List.mem_filter.2 ⟨hmem, by simp⟩, rfl⟩
  · rintro ⟨⟨i, j⟩, hmem, rfl⟩
    obtain ⟨hmem, hi⟩ := List.mem_filter.1 hmem
    rw [← beq_iff_eq.1 hi]
    exact hmem

/-- The parent of a class is the last one that it was linked to. -/
theorem parent_eq_getLast? (hs : s ∈ (draftOf v files).table.symbols) (hk : s.kind = .classKind) :
    s.parent = ((ofDraft (draftOf v files) files).parentsNamed
      (Mark.links (Mark.ofFiles 0 files)) s).getLast? := by
  have hparent (i : Nat) : s.parent = some i ↔
      ((ofDraft (draftOf v files) files).parentsNamed
        (Mark.links (Mark.ofFiles 0 files)) s).getLast? = some i := by
    rw [parentsNamed_eq hs hk]
    refine Iff.trans ?_ ((linked_draftOf v files).parent s.id i)
    rw [(wellFormed_draftOf v files).mem_held_iff hs, Symbol.parents, Option.mem_toList]
  exact Option.ext hparent

theorem nodup_children (hp : p ∈ (draftOf v files).table.symbols) : p.children.Nodup := by
  have hall := (linked_draftOf v files).nodup
  unfold SymbolTable.held at hall
  have hown := (List.nodup_flatMap.1 hall).1 p hp
  exact List.Nodup.of_map _ hown

/-- **Parents and children come from the class markers.**  The parents that the markers of a class
name, itself apart, all have the class among their children, once; the last of them is its parent.
So the parent of a class has it as a child.  A symbol that has a class as a child is its parent
exactly if it is the last one that the markers of the class name. -/
theorem ofTexts_links (v : Vocabulary) (texts : List Text) :
    let c := ofTexts v texts
    let links := Mark.links (Mark.ofFiles 0 (texts.map Text.lines))
    (∀ p ∈ c.symbols, p.children.Nodup) ∧
      ∀ s ∈ c.classes,
        s.parent = (c.parentsNamed links s).getLast? ∧
        ∀ p ∈ c.symbols,
          (s.id ∈ p.children ↔ p.id ∈ c.parentsNamed links s) ∧
          (s.parent = some p.id → s.id ∈ p.children) ∧
          ((s.id ∈ p.children ↔ s.parent = some p.id) ↔
            (p.id ∈ c.parentsNamed links s → (c.parentsNamed links s).getLast? = some p.id)) := by
  intro c links
  refine ⟨fun p hp => nodup_children (v := v) hp, fun s hs => ?_⟩
  obtain ⟨hmem, hk⟩ := List.mem_filter.1 hs
  have hk := beq_iff_eq.1 hk
  have hparent : s.parent = (c.parentsNamed links s).getLast? :=
    parent_eq_getLast? (v := v) hmem hk
  refine ⟨hparent, fun p hp => ?_⟩
  have hchild : s.id ∈ p.children ↔ p.id ∈ c.parentsNamed links s :=
    mem_children_iff (v := v) hmem hk hp
  have hback : s.parent = some p.id → s.id ∈ p.children := by
    intro h
    rw [hchild]
    rw [hparent] at h
    exact List.mem_of_getLast? h
  refine ⟨hchild, hback, ?_⟩
  rw [hchild, hparent]
  constructor
  · exact fun h => h.1
  · exact fun h => ⟨h, List.mem_of_getLast?⟩

/-- A class that is opened again with another parent stays among the children of the old one. -/
theorem children_of_reopened_class :
    let c := ofTexts .standard
      ["---@class A\n---@class B\n---@class C : A\n---@class C : B".toList]
    ∃ p ∈ c.classes, ∃ s ∈ c.classes, s.id ∈ p.children ∧ s.parent ≠ some p.id := by
  decide +kernel

end Catalog

end LuaAtlas
