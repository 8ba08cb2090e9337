import LuaAtlas.Proofs.Draft.Routine
import LuaAtlas.Proofs.Draft.TypeReading

/-!
# A draft knows what declarations say

What is known in a draft comes from declarations: entering one adds what it says
(`Declaration.sayings`), with the numbers of the symbols in the place of their names.  `Draft.Tells`
states this against a later table `T`, from which the numbers are taken, so that what is added is
the same whenever it is added.

Some of what declarations say does not count.  A method is passed over if its class is not declared,
which is reported; a function, a parent or a last line may be known already.  So all that is said
becomes known of declarations whose name was not declared before, as long as no method is reported
(`tells_enter`).  What becomes known of what a symbol holds was said in any case.
-/

namespace LuaAtlas

/-! ### Names and numbers -/

namespace SymbolTable

/-- What is said, with numbers for names. -/
def signed (t : SymbolTable) (y : Saying) : Text × Fact Reference Nat :=
  (y.1, y.2.map t.refer t.idOf id)

theorem lastLine_mem_map_signed {t : SymbolTable} {said : List Saying} {name : Text} {line : Nat} :
    (name, .lastLine line) ∈ said.map t.signed ↔ (name, .lastLine line) ∈ said := by
  constructor
  · intro h
    obtain ⟨⟨n, fact⟩, hmem, heq⟩ := List.mem_map.1 h
    cases fact <;> cases heq
    exact hmem
  · exact fun h => List.mem_map.2 ⟨_, h, rfl⟩

end SymbolTable

namespace Draft

open SymbolTable (Undeclared)

variable {v : Vocabulary} {d d' d'' : Draft} {T : SymbolTable} {file line owner : Nat}
  {kind : SymbolKind} {name : Text}

/-- A table that comes after a draft. -/
abbrev Before (d : Draft) (T : SymbolTable) : Prop := d.table.Extends Set.univ T

theorem Steps.before (h : Steps file d d') (hw : d.table.WellFormed) (hT : d'.Before T) :
    d.Before T :=
  (h.extends hw (Set.mem_univ file)).table.trans hT

/-! ### Telling -/

/-- **What a draft comes to know.**  What symbols hold in the end they held before, or it was said;
and exactly what was said is added in the case that all of it counts. -/
structure Tells (T : SymbolTable) (whole : Prop) (said : List Saying) (d d' : Draft) : Prop where
  subset : ∀ name o, (name, .holds o) ∈ d'.table.facts →
    (name, .holds o) ∈ d.table.facts ∨ (name, .holds o) ∈ said.map T.signed
  perm : whole → d'.table.facts.Perm (d.table.facts ++ said.map T.signed)

variable {whole whole' : Prop} {said said' : List Saying}

theorem Tells.of_perm (h : d'.table.facts.Perm (d.table.facts ++ said.map T.signed)) :
    Tells T whole said d d' :=
  ⟨fun _ _ hx => List.mem_append.1 (h.mem_iff.1 hx), fun _ => h⟩

theorem Tells.mono (h : Tells T whole said d d') (hw : whole' → whole) : Tells T whole' said d d' :=
  ⟨h.subset, fun hw' => h.perm (hw hw')⟩

theorem Tells.always (h : Tells T True said d d') : Tells T whole said d d' :=
  h.mono fun _ => trivial

/-- Nothing is said. -/
theorem Tells.of_eq (h : d'.table.facts = d.table.facts) : Tells T whole [] d d' := by
  refine .of_perm ?_
  rw [h, List.map_nil, List.append_nil]

theorem Tells.trans (h : Tells T whole said d d') (h' : Tells T whole' said' d' d'') :
    Tells T (whole ∧ whole') (said ++ said') d d'' := by
  refine ⟨fun name o hx => ?_, fun hw => ?_⟩
  · rw [List.map_append, List.mem_append, ← or_assoc]
    exact (h'.subset name o hx).imp_left (h.subset name o)
  · rw [List.map_append, ← List.append_assoc]
    exact (h'.perm hw.2).trans ((h.perm hw.1).append_right _)

/-- A step in front that says nothing. -/
theorem Tells.of_eq_left (h : Tells T whole said d' d'') (he : d'.table.facts = d.table.facts) :
    Tells T whole said d d'' :=
  ⟨fun name o hx => he ▸ h.subset name o hx, fun hw => he ▸ h.perm hw⟩

/-- A step behind that says nothing. -/
theorem Tells.of_eq_right (h : Tells T whole said d d') (he : d''.table.facts = d'.table.facts) :
    Tells T whole said d d'' :=
  ⟨fun name o hx => h.subset name o (he ▸ hx), fun hw => he ▸ h.perm hw⟩

theorem Collects.facts_eq {params : List Member} (h : Collects file owner params d d') :
    d'.table.facts = d.table.facts := by
  induction h with
  | refl => rfl
  | report h issues line ih => exact ih
  | resolve h name line ih => exact SymbolTable.facts_resolve.trans ih
  | parameter h p hid hparent hresolves ih => exact ih

theorem facts_declare (h : d.table.WellFormed) :
    (d.declare kind name file line).1.table.facts = d.table.facts :=
  h.facts_declare

/-! Storing. -/

/-- A symbol gets something into its body. -/
theorem tells_modify (h : d.table.WellFormed) {id : Nat} (hown : d.table.Owns id kind name)
    {g : Body → Body} {o : Outline Reference} {o' : Outline Text}
    (hg : ∀ body : Body, (g body).kind = body.kind)
    (hout : ∀ s : Symbol, s.kind = kind → (s.mapBody g).outlines.Perm (s.outlines ++ [o]))
    (ho : o = o'.map T.refer (fun i => i)) :
    Tells T True [.holds name o'] d (d.modify id (·.mapBody g)) := by
  subst ho
  exact .of_perm (h.facts_mapBody hown hg hout)

theorem tells_storeProperty (h : d.table.WellFormed) {p : Member}
    (hown : d.table.Owns p.parent .classKind name) {o : Outline Text}
    (ho : .property p.outline = o.map T.refer (fun i => i)) :
    Tells T True [.holds name o] d (d.storeProperty p) := by
  have hadded : (d.modify p.parent (·.mapBody (·.addProperty p))).table.WellFormed :=
    h.modify_of_keeps (Symbol.spares_addProperty p).toKeeps p.parent
  refine Tells.of_eq_right ?_ (hadded.facts_addEdges _)
  refine tells_modify h hown (Body.kind_addProperty p) (fun s hs => ?_) ho
  exact Symbol.outlines_of_entries (by rw [hs]; exact nofun) (Body.kind_addProperty p)
    (Symbol.entries_addProperty hs p)

theorem tells_storeMethod (h : d.table.WellFormed) {m : Method}
    (hown : d.table.Owns m.parent .classKind name) {o : Outline Text}
    (ho : m.outline = o.map T.refer (fun i => i)) :
    Tells T True [.holds name o] d (d.storeMethod m) := by
  have hadded : (d.modify m.parent (·.mapBody (·.addMethod m))).table.WellFormed :=
    h.modify_of_keeps (Symbol.spares_addMethod m).toKeeps m.parent
  refine Tells.of_eq_right ?_ (hadded.facts_addEdges _)
  refine tells_modify h hown (Body.kind_addMethod m) (fun s hs => ?_) ho
  exact Symbol.outlines_of_entries (by rw [hs]; exact nofun) (Body.kind_addMethod m)
    (.of_eq (Symbol.entries_addMethod hs m))

theorem tells_storeRoutine (h : d.table.WellFormed) {s : Symbol} (hs : s ∈ d.table.symbols)
    (hk : s.kind = .functionKind) (hnone : s.routine? = none) {r : Routine} {o : Outline Text}
    (ho : .routine r.outline = o.map T.refer (fun i => i)) :
    Tells T True [.holds s.name o] d (d.storeRoutine s.id r) := by
  have hadded : (d.modify s.id (·.mapBody (·.setRoutine r))).table.WellFormed :=
    h.modify_of_keeps (Symbol.keeps_mapBody (Body.kind_setRoutine r)) s.id
  refine Tells.of_eq_right (.of_perm ?_) (hadded.facts_addEdges _)
  have hout : (s.mapBody (·.setRoutine r)).outlines.Perm (s.outlines ++ [.routine r.outline]) :=
    Symbol.outlines_of_entries (by rw [hk]; exact nofun) (Body.kind_setRoutine r)
      (.of_eq (Symbol.entries_setRoutine hk hnone r))
  rw [ho] at hout
  exact h.facts_modify_append hs rfl (Symbol.facts_mapBody (Body.kind_setRoutine r) hout)

/-! ### Owners -/

/-- No method was passed over for want of its class. -/
def OwnersKnown (d : Draft) : Prop := ∀ x ∈ d.diagnostics, x.issue.code ≠ "unknown-owner"

theorem Steps.ownersKnown (h : Steps file d d') (hw : d.table.WellFormed) (hd : d'.OwnersKnown) :
    d.OwnersKnown :=
  fun x hx => hd x ((h.extends hw (Set.mem_univ file)).diagnostics.subset hx)

theorem Steps.owns (h : Steps file d d') (hw : d.table.WellFormed) {id : Nat}
    (hk : kind ≠ .unknown) (hown : d.table.Owns id kind name) : d'.table.Owns id kind name :=
  (h.extends hw (Set.mem_univ file)).table.owns hk hown

/-- **The parts of a block tell one after the other.** -/
theorem tells_foldl {α : Type} {enterPart : Draft → α → Draft} {sayingsOf : α → List Saying}
    {id : Nat} (kind : SymbolKind) (hk : kind ≠ .unknown)
    (hsteps : ∀ {d : Draft}, d.table.WellFormed → d.table.Owns id kind name →
      ∀ a, Steps file d (enterPart d a))
    (htells : ∀ {d : Draft}, d.table.WellFormed → d.table.Owns id kind name →
      ∀ a, (enterPart d a).Before T →
        Tells T (enterPart d a).OwnersKnown (sayingsOf a) d (enterPart d a))
    (h : d.table.WellFormed) (hown : d.table.Owns id kind name) (parts : List α)
    (hT : (parts.foldl enterPart d).Before T) :
    Steps file d (parts.foldl enterPart d) ∧
      Tells T (parts.foldl enterPart d).OwnersKnown (parts.flatMap sayingsOf) d
        (parts.foldl enterPart d) := by
  induction parts generalizing d with
  | nil => exact ⟨.refl, .of_eq rfl⟩
  | cons a parts ih =>
    have hone := hsteps h hown a
    have hw := hone.wellFormed h
    obtain ⟨hrest, htold⟩ := ih hw (hone.owns h hk hown) hT
    have hfirst := htells h hown a (hrest.before hw hT)
    refine ⟨hone.trans hrest, (hfirst.trans htold).mono fun hknown => ?_⟩
    exact ⟨hrest.ownersKnown hw hknown, hknown⟩

/-! ### Functions and methods -/

/-- The class that a number belongs to is the one that its name leads to. -/
theorem classNamed?_of_owns (h : d.table.WellFormed)
    (hown : d.table.Owns owner .classKind name) : d.classNamed? name = some owner := by
  obtain ⟨s, hs, rfl, hk, hn⟩ := hown
  unfold classNamed?
  rw [h.find?_eq_some_iff.2 ⟨hs, hn, hk⟩]
  rfl

/-- **Both ways to the class of a method agree**: in the block of a class, a method that names this
class finds it by its name too. -/
theorem enterBlockMethod_eq_enterMethod (v : Vocabulary) (file : Nat) (h : d.table.WellFormed)
    (hown : d.table.Owns owner .classKind name) (m : MethodLine) :
    d.enterBlockMethod v file owner name m = d.enterMethod v file m := by
  unfold enterBlockMethod enterMethod
  split
  · rename_i heq
    rw [← heq, classNamed?_of_owns h hown]
  · rfl

/-- A method whose class is declared tells what its line says. -/
theorem tells_enterMethod_of_find? (h : d.table.WellFormed) (m : MethodLine) {s : Symbol}
    (hfind : d.table.find? m.owner .classKind = some s) (hT : (d.enterMethod v file m).Before T) :
    Tells T True [m.saying v file] d (d.enterMethod v file m) := by
  obtain ⟨hs, hname, hk⟩ := SymbolTable.mem_of_find?_eq_some hfind
  let read := d.fresh.1.enterRoutine v file d.fresh.2 m.toFunctionLine
  let method : Method :=
    { id := d.fresh.2, parent := s.id, name := m.name, routine := read.2, file, line := m.line }
  have hread : Collects file d.fresh.2 read.2.params d.fresh.1 read.1 :=
    (collects_enterRoutine v file d.fresh.2 d.fresh.1 m.toFunctionLine).1
  have hw := hread.wellFormed h.fresh
  unfold enterMethod classNamed? at hT ⊢
  simp only [hfind, Option.map_some, enterMethodInto, trackRoutine_eq_addEdges] at hT ⊢
  have hbefore : read.1.Before T := by
    have hstored : Extends Set.univ read.1 (read.1.storeMethod method) :=
      extends_storeMethod hw method
    exact hstored.table.trans hT
  have houtline : method.outline =
      (Outline.method m.name (m.toFunctionLine.outline v file) file m.line).map T.refer id := by
    show Outline.method _ read.2.outline _ _ = _
    rw [outline_enterRoutine (hbefore.persistsIn hw)]
    rfl
  have htold := tells_storeMethod (m := method) hw ⟨s, hread.symbols_subset hs, rfl, hk, hname⟩
    houtline
  have hfacts : read.1.table.facts = d.table.facts := hread.facts_eq
  exact htold.of_eq_left hfacts

theorem tells_enterMethod (h : d.table.WellFormed) (m : MethodLine)
    (hT : (d.enterMethod v file m).Before T) :
    Tells T (d.enterMethod v file m).OwnersKnown [m.saying v file] d (d.enterMethod v file m) := by
  cases hfind : d.table.find? m.owner .classKind with
  | none =>
    -- the method is passed over, and that is reported
    unfold enterMethod classNamed?
    rw [hfind]
    refine ⟨fun _ _ hx => Or.inl hx, fun hknown => ?_⟩
    exact absurd rfl (hknown ⟨.unknownOwner m.owner m.separator m.name, file, m.line⟩
      (List.mem_append_right _ (List.mem_singleton_self _)))
  | some s => exact (tells_enterMethod_of_find? h m hfind hT).always

/-- A function counts if none was declared under its name. -/
theorem tells_enterFunction (h : d.table.WellFormed) (f : FunctionLine)
    (hT : (d.enterFunction v file name f).Before T) :
    Tells T (d.table.find? name .functionKind = none) [.holds name (.routine (f.outline v file))] d
      (d.enterFunction v file name f) := by
  let declared := d.declare .functionKind name file f.line
  have hw : declared.1.table.WellFormed := h.declare
  obtain ⟨u, hu, huid, huk, rfl⟩ : declared.1.table.Owns declared.2 .functionKind name :=
    h.owns_declare .functionKind nofun name file f.line
  have hget : declared.1.table.get? declared.2 = some u := hw.get?_eq_some_iff.2 ⟨hu, huid⟩
  unfold enterFunction at hT ⊢
  simp only [declared] at hget
  simp only [hget] at hT ⊢
  split at hT
  · -- a function with a routine was there before
    rename_i hroutine
    simp only [hroutine, ↓reduceIte]
    refine ⟨fun _ _ hx => ?_, fun hnone => ?_⟩
    · left
      rw [← facts_declare h]
      exact hx
    · have hsame := declare_of_routine h u.name file f.line hget hroutine
      have hold : u ∈ d.table.symbols := by
        have hmem : u ∈ (d.declare .functionKind u.name file f.line).1.table.symbols := hu
        rw [hsame] at hmem
        exact hmem
      exact absurd huk (SymbolTable.find?_eq_none_iff.1 hnone u hold rfl)
  · rename_i hroutine
    have hnone : u.routine? = none := by simpa using hroutine
    simp only [hroutine, Bool.false_eq_true, ↓reduceIte]
    let read := declared.1.enterRoutine v file declared.2 f
    have hread : Collects file declared.2 read.2.params declared.1 read.1 :=
      (collects_enterRoutine v file declared.2 declared.1 f).1
    have hreadw := hread.wellFormed hw
    rw [trackRoutine_eq_addEdges] at hT ⊢
    have hbefore : read.1.Before T := by
      have hstored : Extends Set.univ read.1 (read.1.storeRoutine u.id read.2) :=
        extends_storeRoutine hreadw (hread.symbols_subset hu) hnone read.2
      rw [huid] at hstored
      exact hstored.table.trans hT
    have houtline : Outline.routine read.2.outline =
        (Outline.routine (f.outline v file)).map T.refer id := by
      rw [outline_enterRoutine (hbefore.persistsIn hreadw)]
      rfl
    have htold := tells_storeRoutine hreadw (hread.symbols_subset hu) huk hnone houtline
    rw [huid] at htold
    exact ((htold.of_eq_left hread.facts_eq).of_eq_left (facts_declare h)).always

/-! ### Blocks -/

/-- The first line of a declaration and its last one. -/
theorem tells_setLastLine (h : d.table.WellFormed) (kind : SymbolKind) (hk : kind ≠ .unknown)
    {filled : Draft}
    (hsteps : Steps file (d.declare kind name file line).1 filled)
    (htells : Tells T whole said (d.declare kind name file line).1 filled)
    (hsaid : ∀ last, (name, .lastLine last) ∉ said) (lastLine : Nat) :
    Tells T (whole ∧ d.table.Undeclared name) (said ++ Saying.extent name line lastLine) d
      (filled.setLastLine (d.declare kind name file line).2 file line lastLine) := by
  let declared := d.declare kind name file line
  have hw : declared.1.table.WellFormed := h.declare
  have hext := hsteps.extends hw (Set.mem_univ file)
  have htells := htells.of_eq_left (facts_declare h)
  refine ⟨fun n o hx => ?_, ?_⟩
  · -- a last line is nothing that a symbol holds
    have houtlines (s : Symbol) :
        (if s.isDeclaredAt file line then { s with lastLine } else s).outlines = s.outlines := by
      split <;> rfl
    have hname (s : Symbol) :
        (if s.isDeclaredAt file line then { s with lastLine } else s).name = s.name := by
      split <;> rfl
    rw [List.map_append, List.mem_append, ← or_assoc]
    exact Or.inl (htells.subset n o ((SymbolTable.holds_mem_facts_modify hname houtlines).1 hx))
  · rintro ⟨hwhole, hname⟩
    obtain ⟨⟨s₀, hs₀, hid₀, hname₀, hbody₀, hfile₀, hfirst₀, -, -⟩, -⟩ :=
      h.declare_of_undeclared kind hk hname file line
    have hk₀ : s₀.kind ≠ .unknown := by
      unfold Symbol.kind
      rw [hbody₀, Body.kind_empty]
      exact hk
    obtain ⟨s, hs, hs₀s⟩ := hext.table.exists_mem hs₀
    have hsk : s.kind ≠ .unknown := by
      rw [hs₀s.kind hk₀]
      exact hk₀
    have hfirst : s.firstLine = line := (hs₀s.firstLine hk₀).trans hfirst₀
    have hfacts := htells.perm hwhole
    -- so far nothing was said of the last line
    have hline : s.lastLine = s.firstLine := by
      by_contra hne
      have hmem : (name, Fact.lastLine s.lastLine) ∈ filled.table.facts := by
        refine List.mem_flatMap.2 ⟨s, hs, Symbol.mem_facts.2 ⟨?_, ?_⟩⟩
        · rw [hs₀s.name, hname₀]
        · exact Symbol.lastLine_mem_known.2 ⟨hsk, hne, rfl⟩
      rcases List.mem_append.1 (hfacts.mem_iff.1 hmem) with hold | hnew
      · exact hname.not_mem_facts _ hold
      · exact hsaid _ (SymbolTable.lastLine_mem_map_signed.1 hnew)
    have hdeclared : s.isDeclaredAt file line = true := by
      simp only [Symbol.isDeclaredAt, Bool.and_eq_true, beq_iff_eq]
      exact ⟨(hs₀s.file hk₀).trans hfile₀, hfirst⟩
    have hid : s.id = declared.2 := hs₀s.id.trans hid₀
    have hset := hext.wellFormed.facts_modify_append (f := fun s =>
        if s.isDeclaredAt file line then { s with lastLine } else s) hs
      (by simp only [hdeclared, ↓reduceIte])
      (by
        simp only [hdeclared, ↓reduceIte]
        exact Symbol.facts_setLastLine hsk hline lastLine)
    rw [hid] at hset
    refine hset.trans ?_
    rw [List.map_append, ← List.append_assoc]
    refine hfacts.append ?_
    unfold Saying.extent
    rw [hfirst, hs₀s.name, hname₀]
    split <;> exact .refl _

/-! Classes. -/

theorem tells_enterField (h : d.table.WellFormed) (hown : d.table.Owns owner .classKind name)
    (f : FieldLine) (hT : (d.enterField v file owner name f).Before T) :
    Tells T whole (f.sayings v file name) d (d.enterField v file owner name f) := by
  unfold enterField at hT ⊢
  unfold FieldLine.sayings
  cases htype : f.type with
  | none => exact .of_eq rfl
  | some type =>
    simp only [htype, track_eq_addEdges] at hT ⊢
    let read := d.readTagged v type f.optional file f.line
    let p : Member :=
      { id := read.1.fresh.2, kind := .property, parent := owner, name := f.name, rawType := type,
        signature := read.2, file, line := f.line }
    have hread : Collects file owner [] d read.1 :=
      collects_readTagged v owner d type f.optional file f.line
    have hw := hread.wellFormed h
    have hbefore : read.1.Before T := by
      have hfresh : Extends Set.univ read.1 read.1.fresh.1 := extends_fresh hw
      have hstored : Extends Set.univ read.1.fresh.1 (read.1.fresh.1.storeProperty p) :=
        extends_storeProperty hw.fresh p
      exact (hfresh.trans hstored).table.trans hT
    have houtline : Outline.property p.outline = (Outline.property
        { kind := .property, name := f.name, rawType := type,
          type := TypeExpr.tagged v type f.optional, file, line := f.line }).map T.refer id := by
      show Outline.property { p.outline with type := read.2 } = _
      rw [readTagged_eq_sign (hbefore.persistsIn hw)]
      rfl
    obtain ⟨s, hs, hid, hk, hname⟩ := hown
    have htold := tells_storeProperty (d := read.1.fresh.1) (p := p) hw.fresh
      ⟨s, hread.symbols_subset hs, hid, hk, hname⟩ houtline
    have hfacts : read.1.fresh.1.table.facts = d.table.facts := hread.facts_eq
    exact (htold.of_eq_left hfacts).always

theorem tells_enterItem (h : d.table.WellFormed) (hown : d.table.Owns owner .classKind name)
    (item : ClassItem) (hT : (d.enterItem v file owner name item).Before T) :
    Tells T (d.enterItem v file owner name item).OwnersKnown (item.sayings v file name) d
      (d.enterItem v file owner name item) := by
  cases item with
  | field f => exact tells_enterField h hown f hT
  | method m =>
    show Tells T (d.enterBlockMethod v file owner name m).OwnersKnown _ d
      (d.enterBlockMethod v file owner name m)
    have hsame := enterBlockMethod_eq_enterMethod v file h hown m
    rw [hsame]
    exact tells_enterMethod h m (hsame ▸ hT)

/-- A class without a parent is linked to its parent, unless that is the class itself. -/
theorem tells_linkParent (h : d.table.WellFormed) {id : Nat} {parent : Text}
    (hclass : whole → ∃ s ∈ d.table.symbols, s.id = id ∧ s.name = name ∧ s.parent = none)
    (hself : whole → (T.idOf parent = id ↔ parent = name)) :
    Tells T whole (parentSayings name (some parent)) d
      (d.linkParent id (T.idOf parent) name file line) := by
  unfold linkParent
  split
  · rename_i heq
    refine ⟨fun _ _ hx => Or.inl hx, fun hwhole => ?_⟩
    have hnone : parentSayings name (some parent) = [] := by
      simp [parentSayings, Option.filter, (hself hwhole).1 heq]
    rw [hnone, List.map_nil, List.append_nil]
    exact .refl _
  · rename_i hne
    refine ⟨fun n o hx => Or.inl ?_, fun hwhole => ?_⟩
    · have hlinked := (SymbolTable.holds_mem_facts_modify (Symbol.spares_addChild id).name
        fun s => Symbol.content_outlines.steady.addChild s id).1 hx
      exact (SymbolTable.holds_mem_facts_modify (Symbol.spares_setParent (T.idOf parent)).name
        fun _ => rfl).1 hlinked
    · obtain ⟨s, hs, rfl, rfl, hparent⟩ := hclass hwhole
      have hone : parentSayings s.name (some parent) = [(s.name, .parent parent)] := by
        have hdistinct : parent ≠ s.name := fun heq => hne ((hself hwhole).2 heq)
        simp [parentSayings, Option.filter, hdistinct]
      rw [hone]
      -- the parent gets a child, of which nothing is known
      refine (List.Perm.of_eq (SymbolTable.facts_modify (Symbol.spares_addChild s.id).id
        fun u _ _ => Symbol.facts_addChild s.id u)).trans ?_
      exact h.facts_modify_append hs rfl (Symbol.facts_setParent hparent (T.idOf parent))

/-- A class is declared after the use of its parent's name and is linked to it. -/
theorem tells_declareLinked (h : d.table.WellFormed) {parent : Text}
    (hnumber : T.idOf parent = (d.resolve parent file line).2) :
    let resolved := d.resolve parent file line
    let declared := resolved.1.declare .classKind name file line
    Tells T (d.table.Undeclared name) (parentSayings name (some parent)) declared.1
      (declared.1.linkParent declared.2 resolved.2 name file line) := by
  intro resolved declared
  have hresolved : resolved.1.table.WellFormed := h.resolve
  have hdeclared : declared.1.table.WellFormed := hresolved.declare
  have hext : resolved.1.table.Extends Set.univ declared.1.table :=
    hresolved.extends_declare .classKind name file line
  obtain ⟨u, hu, huid⟩ : ∃ u, resolved.1.table.lookup? parent = some u ∧ u.id = resolved.2 :=
    d.table.lookup?_resolve parent file line
  have hclass (hname : d.table.Undeclared name) :=
    hresolved.declare_of_undeclared .classKind nofun hname.resolve file line
  show Tells T _ _ _
    (declared.1.linkParent declared.2 (d.resolve parent file line).2 name file line)
  rw [← hnumber]
  refine tells_linkParent hdeclared (fun hname => ?_) fun hname => ?_
  · obtain ⟨⟨s, hs, hid, hsname, -, -, -, -, hparent⟩, -⟩ := hclass hname
    exact ⟨s, hs, hid, hsname, hparent⟩
  · -- the parent has the number of the class if and only if it has its name
    obtain ⟨⟨s, hs, hid, hsname, -⟩, hfound⟩ := hclass hname
    rw [hnumber]
    constructor
    · intro heq
      obtain ⟨humem, huname⟩ := SymbolTable.mem_of_lookup?_eq_some hu
      obtain ⟨u', hu', hu'u⟩ := hext.exists_mem humem
      have hone : u' = s :=
        hdeclared.eq_of_id_eq hu' hs ((hu'u.id.trans (huid.trans heq)).trans hid.symm)
      rw [← huname, ← hu'u.name, hone, hsname]
    · rintro rfl
      exact huid.symm.trans (hfound u hu).symm

theorem tells_enterItems (h : d.table.WellFormed) (hown : d.table.Owns owner .classKind name)
    (items : List ClassItem) (hT : (items.foldl (enterItem v file owner name) d).Before T) :
    Steps file d (items.foldl (enterItem v file owner name) d) ∧
      Tells T (items.foldl (enterItem v file owner name) d).OwnersKnown
        (items.flatMap (·.sayings v file name)) d (items.foldl (enterItem v file owner name) d) :=
  tells_foldl .classKind nofun (fun h hown item => steps_enterItem v file name h hown.holds item)
    (fun h hown item hT => tells_enterItem h hown item hT) h hown items hT

theorem before_of_setLastLine (h : d.table.WellFormed) {id lastLine : Nat}
    (hT : (d.setLastLine id file line lastLine).Before T) : d.Before T := by
  have hstep : Steps file d (d.setLastLine id file line lastLine) := .single (.lastLine id line _)
  exact hstep.before h hT

theorem tells_enterClass (h : d.table.WellFormed) (lastLine : Nat) (parent : Option Text)
    (items : List ClassItem) (hT : (d.enterClass v file line lastLine name parent items).Before T) :
    Tells T ((d.enterClass v file line lastLine name parent items).OwnersKnown ∧
        d.table.Undeclared name)
      ((Declaration.classDecl line lastLine name parent items).sayings v file) d
      (d.enterClass v file line lastLine name parent items) := by
  cases parent with
  | none =>
    let declared := d.declare .classKind name file line
    have hw : declared.1.table.WellFormed := h.declare
    have hown : declared.1.table.Owns declared.2 .classKind name :=
      h.owns_declare .classKind nofun name file line
    have hfilled := steps_foldl hw hown.holds nofun
      (fun h hold item => steps_enterItem v file name h hold item) items
    obtain ⟨hsteps, htold⟩ := tells_enterItems hw hown items
      (before_of_setLastLine (hfilled.wellFormed hw) hT)
    refine tells_setLastLine h .classKind nofun hsteps htold (fun last hmem => ?_) lastLine
    obtain ⟨_, _, heq⟩ := ClassItem.exists_holds_of_mem hmem
    cases heq
  | some parent =>
    let resolved := d.resolve parent file line
    let declared := resolved.1.declare .classKind name file line
    let linked := declared.1.linkParent declared.2 resolved.2 name file line
    have hresolved : resolved.1.table.WellFormed := h.resolve
    have hdeclared : declared.1.table.WellFormed := hresolved.declare
    have hlinked := steps_linkParent declared.1 declared.2 resolved.2 name file line
    have hw : linked.table.WellFormed := hlinked.wellFormed hdeclared
    have hown : linked.table.Owns declared.2 .classKind name :=
      hlinked.owns hdeclared nofun (hresolved.owns_declare .classKind nofun name file line)
    have hfilled := steps_foldl hw hown.holds nofun
      (fun h hold item => steps_enterItem v file name h hold item) items
    have hbefore := before_of_setLastLine (hfilled.wellFormed hw) hT
    obtain ⟨hsteps, hitems⟩ := tells_enterItems hw hown items hbefore
    -- the number of the parent is the one that its name has from now on
    obtain ⟨u, hu, huid⟩ : ∃ u, resolved.1.table.lookup? parent = some u ∧ u.id = resolved.2 :=
      d.table.lookup?_resolve parent file line
    have hnumber : T.idOf parent = resolved.2 := by
      have hdext : resolved.1.table.Extends Set.univ declared.1.table :=
        hresolved.extends_declare .classKind name file line
      have hall : resolved.1.Before T :=
        hdext.trans (hlinked.before hdeclared (hsteps.before hw hbefore))
      have hpersists := hall.persistsIn hresolved
      rw [hpersists.idOf_eq (by rw [hu]; rfl), SymbolTable.idOf_eq_of_lookup? hu, huid]
    have hlink : Tells T (d.table.Undeclared name) (parentSayings name (some parent)) declared.1
        linked :=
      tells_declareLinked h hnumber
    have hblock := tells_setLastLine hresolved .classKind nofun (hlinked.trans hsteps)
      (hlink.trans hitems) (fun last hmem => ?_) lastLine
    · have hfacts : resolved.1.table.facts = d.table.facts := SymbolTable.facts_resolve
      refine (hblock.of_eq_left hfacts).mono ?_
      rintro ⟨hknown, hname⟩
      exact ⟨⟨hname, hknown⟩, hname.resolve⟩
    · rcases List.mem_append.1 hmem with hmem | hmem
      · obtain ⟨p, -, hsaying⟩ := List.mem_map.1 hmem
        cases hsaying
      · obtain ⟨_, _, heq⟩ := ClassItem.exists_holds_of_mem hmem
        cases heq

/-! Enumerations and aliases. -/

theorem tells_enterValue (h : d.table.WellFormed) (hown : d.table.Owns owner .enumKind name)
    (e : EnumValue) : Tells T whole [e.saying file name] d (d.enterValue file owner e) := by
  let value : Member :=
    { id := d.fresh.2, kind := .enumValue, parent := owner, name := e.name,
      rawType := Literal.typeOfValue e.value, signature := .primitive (Literal.typeOfValue e.value),
      value := some e.value, file, line := e.line }
  have hout (s : Symbol) (hs : s.kind = .enumKind) :
      (s.mapBody (·.addValue value)).outlines.Perm (s.outlines ++ [.value value.outline]) :=
    Symbol.outlines_of_entries (by rw [hs]; exact nofun) (Body.kind_addValue value)
      (.of_eq (Symbol.entries_addValue hs value))
  have htold : Tells T True [e.saying file name] d.fresh.1 _ :=
    tells_modify (d := d.fresh.1) h.fresh hown (Body.kind_addValue value) hout rfl
  have hfacts : d.fresh.1.table.facts = d.table.facts := rfl
  exact (htold.of_eq_left hfacts).always

theorem tells_enterEnum (h : d.table.WellFormed) (lastLine : Nat) (values : List EnumValue)
    (ending : EnumEnd) (hT : (d.enterEnum file line lastLine name values ending).Before T) :
    Tells T ((d.enterEnum file line lastLine name values ending).OwnersKnown ∧
        d.table.Undeclared name)
      ((Declaration.enumDecl line lastLine name values ending).sayings v file) d
      (d.enterEnum file line lastLine name values ending) := by
  let declared := d.declare .enumKind name file line
  have hw : declared.1.table.WellFormed := h.declare
  have hown : declared.1.table.Owns declared.2 .enumKind name :=
    h.owns_declare .enumKind nofun name file line
  let filled := values.foldl (enterValue file declared.2) declared.1
  have hfilled : Steps file declared.1 filled :=
    steps_foldl hw hown.holds nofun (fun _ hold e => steps_enterValue file hold e) values
  have hbefore : filled.Before T :=
    before_of_setLastLine (d := filled.reportAll _ file line) (hfilled.wellFormed hw) hT
  obtain ⟨hsteps, htold⟩ := tells_foldl .enumKind nofun
    (fun _ hown e => steps_enterValue file hown.holds e)
    (fun h hown e _ => tells_enterValue (T := T) h hown e) hw hown values hbefore
  rw [← List.map_eq_flatMap] at htold
  have hreport := steps_reportAll file filled (endingIssue? name ending).toList line
  have hblock := tells_setLastLine h .enumKind nofun (hsteps.trans hreport)
    (htold.of_eq_right rfl) (fun last hmem => ?_) lastLine
  · refine hblock.mono (And.imp_left fun hknown => ?_)
    exact hreport.ownersKnown (hfilled.wellFormed hw) hknown
  · obtain ⟨e, -, hsaying⟩ := List.mem_map.1 hmem
    cases hsaying

theorem tells_enterOption (h : d.table.WellFormed) (hown : d.table.Owns owner .aliasKind name)
    (option : Nat × OptionText) (hT : (d.enterOption v file owner option).Before T) :
    Tells T whole [option.2.saying v name] d (d.enterOption v file owner option) := by
  have hout (o : AliasOption) (s : Symbol) (hs : s.kind = .aliasKind) :
      (s.mapBody (·.addOption o)).outlines.Perm (s.outlines ++ [o.outline]) :=
    .of_eq (Symbol.outlines_addOption hs o)
  match option with
  | (_, .literal text) =>
    exact (tells_modify h hown (Body.kind_addOption _) (hout ⟨text, .primitive text⟩) rfl).always
  | (line, .type text) =>
    let read := d.readType v text file line
    have hread : Collects file owner [] d read.1 := collects_readType v owner d text file line
    have hw := hread.wellFormed h
    obtain ⟨s, hs, hid, hk, hname⟩ := hown
    have hown : read.1.table.Owns owner .aliasKind name :=
      ⟨s, hread.symbols_subset hs, hid, hk, hname⟩
    have hbefore : read.1.Before T := by
      have hadded : Extends Set.univ read.1
          (read.1.modify owner (·.mapBody (·.addOption ⟨text, read.2⟩))) :=
        extends_modify hw (Symbol.keeps_mapBody (Body.kind_addOption _))
          fun s _ _ => Symbol.extends_mapBody (Body.extends_addOption _ s.body)
      exact hadded.table.trans hT
    have houtline : AliasOption.outline ⟨text, read.2⟩ =
        (Outline.option text (TypeExpr.read v (Text.trim text)).sketch).map T.refer id := by
      show Outline.option text read.2 = _
      rw [readType_eq_sign (hbefore.persistsIn hw)]
      rfl
    have htold := tells_modify hw hown (Body.kind_addOption ⟨text, read.2⟩) (hout ⟨text, read.2⟩)
      houtline
    exact (htold.of_eq_left hread.facts_eq).always

theorem tells_enterAliasLine (h : d.table.WellFormed) (target : Text)
    (hT : (d.enterAliasLine v file line name target).Before T) :
    Tells T whole ((Declaration.aliasLine line name target).sayings v file) d
      (d.enterAliasLine v file line name target) := by
  have hw : (d.declare .aliasKind name file line).1.table.WellFormed := h.declare
  have hown := h.owns_declare .aliasKind nofun name file line
  unfold enterAliasLine at hT ⊢
  rw [Declaration.sayings]
  cases hcut : TypeExpr.cut? target with
  | none =>
    have hreported : (d.declare .aliasKind name file line).1.table.facts = d.table.facts :=
      facts_declare h
    exact .of_eq hreported
  | some type =>
    simp only [hcut] at hT ⊢
    exact (tells_enterOption hw hown (line, .type type) hT).of_eq_left (facts_declare h)

theorem tells_enterAliasBlock (h : d.table.WellFormed) (lastLine : Nat)
    (options : List (Nat × OptionText))
    (hT : (d.enterAliasBlock v file line lastLine name options).Before T) :
    Tells T ((d.enterAliasBlock v file line lastLine name options).OwnersKnown ∧
        d.table.Undeclared name)
      ((Declaration.aliasBlock line lastLine name options).sayings v file) d
      (d.enterAliasBlock v file line lastLine name options) := by
  let declared := d.declare .aliasKind name file line
  have hw : declared.1.table.WellFormed := h.declare
  have hown : declared.1.table.Owns declared.2 .aliasKind name :=
    h.owns_declare .aliasKind nofun name file line
  let filled := options.foldl (enterOption v file declared.2) declared.1
  have hfilled : Steps file declared.1 filled := steps_foldl hw hown.holds nofun
    (fun h hold option => steps_enterOption v file h hold option) options
  -- an alias that stands for nothing is reported, which changes no symbol
  obtain ⟨issues, hreported⟩ : ∃ issues, d.enterAliasBlock v file line lastLine name options =
      (filled.reportAll issues file line).setLastLine declared.2 file line lastLine := by
    unfold enterAliasBlock
    simp only
    split
    · exact ⟨[.emptyAlias name], rfl⟩
    · refine ⟨[], ?_⟩
      rw [reportAll, List.map_nil, List.append_nil]
  rw [hreported] at hT ⊢
  have hbefore : filled.Before T :=
    before_of_setLastLine (d := filled.reportAll issues file line) (hfilled.wellFormed hw) hT
  obtain ⟨hsteps, htold⟩ := tells_foldl .aliasKind nofun
    (fun h hown option => steps_enterOption v file h hown.holds option)
    (fun h hown option hT => tells_enterOption h hown option hT) hw hown options hbefore
  rw [← List.map_eq_flatMap] at htold
  have hreport := steps_reportAll file filled issues line
  have hblock := tells_setLastLine h .aliasKind nofun (hsteps.trans hreport)
    (htold.of_eq_right rfl) (fun last hmem => ?_) lastLine
  · refine hblock.mono (And.imp_left fun hknown => ?_)
    exact hreport.ownersKnown (hfilled.wellFormed hw) hknown
  · obtain ⟨⟨_, option⟩, -, hsaying⟩ := List.mem_map.1 hmem
    cases option <;> cases hsaying

/-! ### Declarations -/

/-- **Entering a declaration tells what it says.**  All of it counts if the name that it declares
was not declared before and no method was passed over. -/
theorem tells_enter (h : d.table.WellFormed) (x : Declaration) (hT : (d.enter v file x).Before T) :
    Tells T ((d.enter v file x).OwnersKnown ∧ ∀ name ∈ x.name?, d.table.Undeclared name)
      (x.sayings v file) d (d.enter v file x) := by
  cases x with
  | classDecl line lastLine name parent items =>
    exact (tells_enterClass h lastLine parent items hT).mono
      (And.imp_right fun hname => hname name rfl)
  | enumDecl line lastLine name values ending =>
    exact (tells_enterEnum h lastLine values ending hT).mono
      (And.imp_right fun hname => hname name rfl)
  | aliasLine line name target => exact tells_enterAliasLine h target hT
  | aliasBlock line lastLine name options =>
    exact (tells_enterAliasBlock h lastLine options hT).mono
      (And.imp_right fun hname => hname name rfl)
  | methodDecl m => exact (tells_enterMethod h m hT).mono And.left
  | functionDecl name f =>
    refine (tells_enterFunction h f hT).mono fun hwhole => ?_
    rw [SymbolTable.find?_eq_none_iff]
    intro s hs hname hk
    rw [(hwhole.2 name rfl s hs hname).1] at hk
    cases hk

end Draft

end LuaAtlas
