import LuaAtlas.Proofs.Catalog.Declared
import LuaAtlas.Proofs.Draft.Telling

/-!
# What a catalogue knows

The declarations of all files, in order (`Declaration.ofFiles`), tell what becomes known in the
draft of the files.  What symbols hold was said by one of them (`holds_mem_facts_draftOf`).  If no
name is declared twice and no method lacks its class, then what is known is exactly what they say,
however they are ordered (`facts_draftOf`): a name that is declared later is not declared before its
turn comes (`Undeclared.enter`).
-/

namespace LuaAtlas

/-- The declarations of files, each with the index of its file. -/
def Declaration.ofFiles (files : List (List Text)) (first : Nat := 0) : List (Nat × Declaration) :=
  (files.zipIdx first).flatMap fun p => (ofLines p.1).map (p.2, ·)

/-- The names that declarations declare, in order. -/
def Declaration.names (declarations : List (Nat × Declaration)) : List Text :=
  declarations.filterMap (·.2.name?)

theorem Declaration.names_cons (p : Nat × Declaration) (declarations : List (Nat × Declaration)) :
    names (p :: declarations) = p.2.name?.toList ++ names declarations := by
  unfold names
  rw [List.filterMap_cons]
  cases p.2.name? <;> rfl

/-- What declarations say, in order. -/
def Declaration.allSayings (v : Vocabulary) (declarations : List (Nat × Declaration)) :
    List Saying :=
  declarations.flatMap fun p => p.2.sayings v p.1

/-- A declaration declares the names of the sites among its marker lines. -/
theorem Declaration.map_name_sites (file : Nat) (x : Declaration) :
    (Mark.sites (Mark.inFile file x.dispatched)).map (·.name) = x.name?.toList := by
  cases x with
  | classDecl line lastLine name parent items =>
    have hsites : Mark.sites (Mark.inFile file
        (Declaration.classDecl line lastLine name parent items).dispatched) =
          [⟨.classKind, name, file, line⟩] :=
      congrArg (List.cons _) (Draft.sites_items file items)
    rw [hsites]
    rfl
  | _ => rfl

namespace Draft

variable {v : Vocabulary} {d : Draft} {T : SymbolTable} {file : Nat} {name : Text}

/-- Declarations are entered one after the other, each into its own file. -/
def enterAll (v : Vocabulary) (d : Draft) (declarations : List (Nat × Declaration)) : Draft :=
  declarations.foldl (fun d p => d.enter v p.1 p.2) d

theorem enterFiles_eq_enterAll (v : Vocabulary) (first : Nat) (d : Draft)
    (files : List (List Text)) :
    d.enterFiles v first files = d.enterAll v (Declaration.ofFiles files first) := by
  induction files generalizing first d with
  | nil => rfl
  | cons lines rest ih =>
    rw [enterFiles, ih, enterAll, enterAll, Declaration.ofFiles, Declaration.ofFiles,
      List.zipIdx_cons, List.flatMap_cons, List.foldl_append, List.foldl_map]
    rfl

theorem extends_enterAll (v : Vocabulary) (h : d.table.WellFormed)
    (declarations : List (Nat × Declaration)) :
    Extends Set.univ d (d.enterAll v declarations) := by
  induction declarations generalizing d with
  | nil => exact .refl h
  | cons p declarations ih =>
    have hone := (steps_enter v p.1 h p.2).extends h (Set.mem_univ p.1)
    exact hone.trans (ih hone.wellFormed)

/-- **A name that is not declared stays so when others are declared.** -/
theorem Undeclared.enter (h : d.table.WellFormed) {x : Declaration}
    (hT : (d.enter v file x).Before T) (hknown : (d.enter v file x).OwnersKnown)
    (hx : ∀ n ∈ x.name?, d.table.Undeclared n) (hname : d.table.Undeclared name)
    (hne : name ∉ x.name?) : (d.enter v file x).table.Undeclared name := by
  intro s hs hsname
  constructor
  · by_contra hk
    -- a declared symbol was declared before, or by this declaration
    obtain ⟨read, haccounts⟩ := accounts_enter v file h x
    obtain ⟨held, hgrows⟩ := haccounts.grows
    have hplace := hgrows.place?_eq s.kind name hk
    have hbefore : d.table.place? s.kind name = none := by
      rw [SymbolTable.place?, Option.map_eq_none_iff, SymbolTable.find?_eq_none_iff]
      intro u hu hun huk
      exact hk (huk.symm.trans (hname u hu hun).1)
    have hafter : (d.enter v file x).table.place? s.kind name = some (s.file, s.firstLine) := by
      rw [SymbolTable.place?, hgrows.wellFormed.find?_eq_some_iff.2 ⟨hs, hsname, rfl⟩]
      rfl
    rw [hbefore, hafter, Option.none_or, eq_comm, Site.first?, Option.map_eq_some_iff] at hplace
    obtain ⟨site, hsite, -⟩ := hplace
    have hkey := List.find?_some hsite
    simp only [Bool.and_eq_true, beq_iff_eq] at hkey
    have hmem : name ∈ (Mark.sites (Mark.inFile file x.dispatched)).map (·.name) :=
      List.mem_map.2 ⟨site, List.mem_of_find?_eq_some hsite, hkey.2⟩
    rw [Declaration.map_name_sites, Option.mem_toList] at hmem
    exact hne hmem
  · rw [Option.eq_none_iff_forall_not_mem]
    intro p hp
    have hfact : (name, Fact.parent p) ∈ (d.enter v file x).table.facts := by
      refine List.mem_flatMap.2 ⟨s, hs, Symbol.mem_facts.2 ⟨hsname.symm, ?_⟩⟩
      exact Symbol.parent_mem_known.2 hp
    have hperm := (tells_enter h x hT).perm ⟨hknown, hx⟩
    rcases List.mem_append.1 (hperm.mem_iff.1 hfact) with hold | hnew
    · exact hname.not_mem_facts _ hold
    · obtain ⟨⟨n, fact⟩, hsaid, hsigned⟩ := List.mem_map.1 hnew
      cases fact <;> cases hsigned
      exact hne (Declaration.parent_mem_sayings hsaid).1

/-- **Declarations tell what they say.**  All of it counts if they declare different names, none of
them declared before, and no method was passed over. -/
theorem tells_enterAll (h : d.table.WellFormed) (declarations : List (Nat × Declaration))
    (hT : (d.enterAll v declarations).Before T) :
    Tells T ((d.enterAll v declarations).OwnersKnown ∧ (Declaration.names declarations).Nodup ∧
        ∀ name ∈ Declaration.names declarations, d.table.Undeclared name)
      (Declaration.allSayings v declarations) d (d.enterAll v declarations) := by
  induction declarations generalizing d with
  | nil => exact .of_eq rfl
  | cons p declarations ih =>
    have hone := (steps_enter v p.1 h p.2).extends h (Set.mem_univ p.1)
    have hrest := extends_enterAll v hone.wellFormed declarations
    have hbefore : (d.enter v p.1 p.2).Before T := hrest.table.trans hT
    have hfirst := tells_enter h p.2 hbefore
    refine (hfirst.trans (ih hone.wellFormed hT)).mono ?_
    rintro ⟨hknown, hnodup, hnames⟩
    rw [Declaration.names_cons] at hnodup hnames
    obtain ⟨-, hrestNodup, hdisjoint⟩ := List.nodup_append.1 hnodup
    have hfirstKnown : (d.enter v p.1 p.2).OwnersKnown :=
      fun x hx => hknown x (hrest.diagnostics.subset hx)
    have hfirstNames : ∀ n ∈ p.2.name?, d.table.Undeclared n :=
      fun n hn => hnames n (List.mem_append_left _ (Option.mem_toList.2 hn))
    refine ⟨⟨hfirstKnown, hfirstNames⟩, hknown, hrestNodup, fun n hn => ?_⟩
    refine Undeclared.enter h hbefore hfirstKnown hfirstNames
      (hnames n (List.mem_append_right _ hn)) fun hname => ?_
    -- the name is declared once, so not by the first declaration
    exact hdisjoint n (Option.mem_toList.2 hname) n hn rfl

end Draft

namespace Catalog

variable {v : Vocabulary} {files : List (List Text)}

theorem draftOf_eq_enterAll (v : Vocabulary) (files : List (List Text)) :
    draftOf v files = Draft.enterAll v {} (Declaration.ofFiles files) :=
  Draft.enterFiles_eq_enterAll v 0 {} files

theorem tells_draftOf (v : Vocabulary) (files : List (List Text)) :
    Draft.Tells (draftOf v files).table
      ((draftOf v files).OwnersKnown ∧ (Declaration.names (Declaration.ofFiles files)).Nodup)
      (Declaration.allSayings v (Declaration.ofFiles files)) {} (draftOf v files) := by
  have hbefore : (draftOf v files).Before (draftOf v files).table :=
    .of_symbols_eq (wellFormed_draftOf v files) rfl
  rw [draftOf_eq_enterAll] at hbefore ⊢
  refine (Draft.tells_enterAll SymbolTable.wellFormed_empty _ hbefore).mono ?_
  rintro ⟨hknown, hnodup⟩
  exact ⟨hknown, hnodup, fun _ _ => nofun⟩

/-- **What symbols hold was said by a declaration.** -/
theorem holds_mem_facts_draftOf {name : Text} {o : Outline Reference}
    (h : (name, .holds o) ∈ (draftOf v files).table.facts) :
    ∃ p ∈ Declaration.ofFiles files, ∃ o' : Outline Text,
      (name, .holds o') ∈ p.2.sayings v p.1 ∧ o = o'.map (draftOf v files).table.refer id := by
  rcases (tells_draftOf v files).subset name o h with hnone | hsaid
  · cases hnone
  · obtain ⟨⟨n, fact⟩, hmem, hsigned⟩ := List.mem_map.1 hsaid
    obtain ⟨p, hp, hsaying⟩ := List.mem_flatMap.1 hmem
    cases fact <;> cases hsigned
    exact ⟨p, hp, _, hsaying, rfl⟩

/-- **What is known is what declarations say**, if they declare different names and no method was
passed over. -/
theorem facts_draftOf (hknown : (draftOf v files).OwnersKnown)
    (hnames : (Declaration.names (Declaration.ofFiles files)).Nodup) :
    (draftOf v files).table.facts.Perm
      ((Declaration.allSayings v (Declaration.ofFiles files)).map
        (draftOf v files).table.signed) :=
  (tells_draftOf v files).perm ⟨hknown, hnames⟩

end Catalog

end LuaAtlas
