import LuaAtlas.Proofs.Catalog.Outcomes
import LuaAtlas.Proofs.Catalog.Ranges
import LuaAtlas.Proofs.Declaration.TypeTags
import LuaAtlas.Proofs.Draft.Attribution

/-!
# Members that tags make

What a field or a function says is told when its part is entered, and what symbols hold stays with
them (`Draft.Tells.exists_entry`).  So a field in the block of a class is a property of the class in
the finished catalogue, and a parameter tag above a method or a function that counts is one of its
parameters (`exists_property`, `exists_methodParam`, `exists_functionParam`).  They have the name in
the tag and its type as it is written, and the meaning of the type, in which every name is the
symbol that it means in a request (`Catalog.Means`).

`Catalog.ofTexts_taggedTypes` puts this together: none of it depends on the description behind the
type.
-/

namespace LuaAtlas

open Declaration Tag

/-! ### What is told stays -/

/-- What belongs to a symbol stays with it. -/
theorem Symbol.Extends.entries_subset {reading : Set Nat} {s s' : Symbol}
    (h : s.Extends reading s') : s.entries ⊆ s'.entries := by
  intro e he
  cases e with
  | property p => exact property_mem_entries.2 (h.properties.subset (property_mem_entries.1 he))
  | method m => exact method_mem_entries.2 (h.methods.subset (method_mem_entries.1 he))
  | value e => exact value_mem_entries.2 (h.values.subset (value_mem_entries.1 he))
  | routine r => exact routine_mem_entries.2 (h.routine? (routine_mem_entries.1 he))

/-- **What is told of a name is there in every later draft**, in a symbol with this name. -/
theorem Draft.Tells.exists_entry {T : SymbolTable} {d d' final : Draft} {reading : Set Nat}
    {name : Text} {o : Outline Text} (h : Tells T True [.holds name o] d d')
    (hext : Extends reading d' final) (ho : ∀ text type, o ≠ .option text type) :
    ∃ s ∈ final.table.symbols, s.name = name ∧ ∃ e ∈ s.entries, e.outline = o.map T.refer id := by
  have hfact : (name, .holds (o.map T.refer id)) ∈ d'.table.facts := by
    rw [(h.perm trivial).mem_iff]
    exact List.mem_append_right _ (List.mem_singleton_self _)
  obtain ⟨s, hs, hknown⟩ := List.mem_flatMap.1 hfact
  obtain ⟨rfl, hheld⟩ := Symbol.mem_facts.1 hknown
  obtain ⟨s', hs', hlater⟩ := hext.table.exists_mem hs
  refine ⟨s', hs', hlater.name, ?_⟩
  rcases List.mem_append.1 (Symbol.holds_mem_known.1 hheld) with hentry | hoption
  · obtain ⟨e, he, heq⟩ := List.mem_map.1 hentry
    exact ⟨e, hlater.entries_subset he, heq⟩
  · obtain ⟨option, -, heq⟩ := List.mem_map.1 hoption
    cases o with
    | option text type => exact absurd rfl (ho text type)
    | _ => cases heq

/-! ### Members of tags -/

/-- **What a tag becomes**: a member with its name, with its type as it is written, and with what
this type means. -/
structure TypeTag.Becomes (tag : TypeTag) (kind : MemberKind) (file line : Nat)
    (Means : TypeTree → Signature → Prop) (p : Member) : Prop where
  kind_eq : p.kind = kind
  name_eq : p.name = tag.name
  rawType_eq : p.rawType = tag.type.render
  means : Means tag.type p.signature
  place_eq : p.file = file ∧ p.line = line

/-- A member that is outlined as its tag says. -/
theorem TypeTag.becomes_of_outline {tag : TypeTag} {kind : MemberKind} {file line : Nat}
    {refer : Text → Reference} {p : Member}
    (h : p.outline = (tag.outline kind file line).map refer id) :
    tag.Becomes kind file line (fun e signature => signature = e.meaning refer) p := by
  have htype : p.signature = (tag.type.meaning id).mapRefs refer :=
    congrArg MemberOutline.type h
  refine ⟨congrArg MemberOutline.kind h, congrArg MemberOutline.name h,
    congrArg MemberOutline.rawType h, ?_, congrArg MemberOutline.file h,
    congrArg MemberOutline.line h⟩
  rw [htype, TypeTree.mapRefs_meaning]
  rfl

/-- **A tag among the annotations of a line**: a parameter tag with the number `line`, indented or
not, in the run of annotations above the line with index `j`. -/
def TypeTag.Annotates (tag : TypeTag) (lines : List Text) (j line : Nat) : Prop :=
  Name.IsParam tag.name ∧ ∃ indent : Text, (∀ c ∈ indent, Text.isBlank c = true) ∧
    (indent ++ tag.line "---@param".toList, line) ∈ annotations lines j

/-- The function on a line has the parameters of its tags. -/
theorem TypeTag.Annotates.outline_mem_params {tag : TypeTag} {lines : List Text} {j line : Nat}
    {text arguments : Text} (h : tag.Annotates lines j line) (hj : j ≤ lines.length) (file : Nat) :
    tag.outline .parameter file line ∈
      (functionLine (lines.take j).reverse j text arguments).params .standard file := by
  obtain ⟨hname, indent, hindent, hmem⟩ := h
  have hnotes : (functionLine (lines.take j).reverse j text arguments).notes =
      notesOf (annotations lines j) := by
    have habove := notesAbove_eq (lines.take j)
    rw [List.length_take, Nat.min_eq_left hj] at habove
    exact habove
  have hparam : ∃ p ∈ annotations lines j, (param? p.1).isSome = true := by
    refine ⟨_, hmem, ?_⟩
    rw [tag.param?_line hname hindent]
    rfl
  rw [FunctionLine.params_of_tagged .standard file hnotes hparam]
  exact List.mem_filterMap.2 ⟨_, hmem, tag.parameter?_line hname hindent file line⟩

/-- A parameter that a function line says is one that is read. -/
theorem Routine.exists_param {v : Vocabulary} {file : Nat} {refer : Text → Reference} {r : Routine}
    {f : FunctionLine} {o : MemberOutline Text} (h : r.outline = (f.outline v file).map refer id)
    (ho : o ∈ f.params v file) : ∃ p ∈ r.params, p.outline = o.map refer id := by
  have hparams : r.params.map (·.outline) = (f.params v file).map (·.map refer id) :=
    congrArg RoutineOutline.params h
  have hmem : o.map refer id ∈ r.params.map (·.outline) := by
    rw [hparams]
    exact List.mem_map_of_mem ho
  exact List.mem_map.1 hmem

/-- **A parameter tag makes a parameter** whenever the function below it is read. -/
theorem TypeTag.Annotates.exists_param_enterRoutine {tag : TypeTag} {lines : List Text}
    {j line : Nat} {text arguments : Text} (h : tag.Annotates lines j line)
    (hj : j ≤ lines.length) (file owner : Nat) (d : Draft) :
    let r := d.enterRoutine .standard file owner
      (functionLine (lines.take j).reverse j text arguments)
    ∃ p ∈ r.2.params, p.parent = owner ∧ tag.Becomes .parameter file line
      (fun e signature => signature = e.meaning r.1.table.refer) p := by
  intro r
  have hcollects := (Draft.collects_enterRoutine .standard file owner d
    (functionLine (lines.take j).reverse j text arguments)).1
  obtain ⟨p, hp, houtline⟩ := Routine.exists_param (Draft.outline_enterRoutine (.refl _))
    (h.outline_mem_params hj file)
  exact ⟨p, hp, (hcollects.of_mem hp).1, TypeTag.becomes_of_outline houtline⟩

/-- The function line that a part is. -/
def Part.routine? : Part → Option FunctionLine
  | method m => some m.toFunctionLine
  | function _ f => some f
  | _ => none

theorem Part.routine_mem {x : Declaration} {part : Part} {f : FunctionLine} (h : part ∈ x.parts)
    (hf : part.routine? = some f) : f ∈ x.routines := by
  cases x with
  | classDecl line lastLine name parent items =>
    rcases List.mem_append.1 h with h | h
    · rcases List.mem_cons.1 h with rfl | h
      · cases hf
      · obtain ⟨item, hitem, rfl⟩ := List.mem_map.1 h
        refine List.mem_flatMap.2 ⟨item, hitem, ?_⟩
        cases item <;> cases hf
        exact List.mem_singleton_self _
    · rw [List.mem_singleton] at h
      cases h
      cases hf
  | methodDecl m =>
    cases List.mem_singleton.1 h
    cases hf
    exact List.mem_singleton_self _
  | functionDecl name g =>
    cases List.mem_singleton.1 h
    cases hf
    exact List.mem_singleton_self _
  | _ =>
    cases List.mem_singleton.1 h
    cases hf

namespace Catalog

variable {files : List (List Text)} {file line : Nat}

/-- **The meaning of a type in a catalogue**: every name is mentioned as the symbol that it means in
a request. -/
def Means (c : Catalog) (e : TypeTree) (signature : Signature) : Prop :=
  ∃ refer : Text → Reference, signature = e.meaning refer ∧
    ∀ name ∈ e.names, ∃ s, Answer.named? c name = some s ∧ refer name = ⟨name, s.id⟩

theorem means_of_mem_signatures {v : Vocabulary} {e : TypeTree} {signature : Signature}
    (h : signature = e.meaning (draftOf v files).table.refer)
    (hmem : signature ∈ (draftOf v files).signatures) :
    (ofDraft (draftOf v files) files).Means e signature := by
  refine ⟨_, h, fun name hname => ?_⟩
  have href : (draftOf v files).table.refer name ∈ signature.refs := by
    rw [h, TypeTree.refs_meaning]
    exact List.mem_map_of_mem (List.mem_eraseDups.2 hname)
  obtain ⟨s, hlookup, hid⟩ := lookup?_of_mem_signatures hmem .self href
  refine ⟨s, (named?_eq_lookup? (wellFormed_draftOf v files) files name).trans hlookup, ?_⟩
  rw [hid]
  rfl

/-- A member of the draft that is outlined as its tag says. -/
theorem becomes_of_mem_signatures {v : Vocabulary} {tag : TypeTag} {kind : MemberKind} {p : Member}
    (h : p.outline = (tag.outline kind file line).map (draftOf v files).table.refer id)
    (hmem : p.signature ∈ (draftOf v files).signatures) :
    tag.Becomes kind file line (ofDraft (draftOf v files) files).Means p := by
  have hbecomes := TypeTag.becomes_of_outline h
  exact { hbecomes with means := means_of_mem_signatures hbecomes.means hmem }

/-! ### Fields -/

/-- The parts of a declaration stand together among the parts of the files. -/
theorem exists_parts_append {lines : List Text} {x : Declaration}
    (hlines : files[file]? = some lines) (hx : x ∈ ofLines lines) :
    ∃ before after, Part.ofFiles files = before ++ x.parts.map (file, ·) ++ after := by
  have hmem : (file, x) ∈ Declaration.ofFiles files := by
    refine List.mem_flatMap.2 ⟨(lines, file), ?_, List.mem_map_of_mem hx⟩
    rw [List.mem_zipIdx_iff_getElem?]
    exact hlines
  obtain ⟨before, after, hsplit⟩ := List.append_of_mem hmem
  refine ⟨before.flatMap fun p => p.2.parts.map (p.1, ·),
    after.flatMap fun p => p.2.parts.map (p.1, ·), ?_⟩
  rw [Part.ofFiles, hsplit, List.flatMap_append, List.flatMap_cons, ← List.append_assoc]

/-- A field in the block of a class is entered behind the line of the class. -/
theorem exists_field_part {lines : List Text} {first last : Nat} {owner : Text}
    {parent : Option Text} {items : List ClassItem} {f : FieldLine}
    (hlines : files[file]? = some lines)
    (hx : .classDecl first last owner parent items ∈ ofLines lines) (hf : .field f ∈ items) :
    ∃ done rest, Part.ofFiles files = done ++ (file, .field owner f) :: rest ∧
      (file, .opening first owner parent) ∈ done := by
  obtain ⟨before, after, hparts⟩ := exists_parts_append hlines hx
  obtain ⟨front, back, rfl⟩ := List.append_of_mem hf
  refine ⟨before ++ (file, .opening first owner parent) ::
      front.map fun item => (file, item.part owner),
    (back.map fun item => (file, item.part owner)) ++
      (file, .closing first last owner) :: after, ?_, by simp⟩
  have hpart : ClassItem.part owner (.field f) = .field owner f := rfl
  rw [hparts]
  simp [Declaration.parts, hpart, Function.comp_def]

/-- **A field is a property of its class.** -/
theorem exists_property {lines : List Text} {i : Nat} {owner : Text} {tag : TypeTag}
    (hlines : files[file]? = some lines) (hblock : InClass lines owner i)
    (hname : Name.isName tag.name = true) (hword : tag.name ∉ visibilities)
    (htext : lines[i]? = some (tag.line "---@field".toList)) :
    ∃ s ∈ (ofDraft (draftOf .standard files) files).classes, s.name = owner ∧
      ∃ p ∈ s.properties, tag.Becomes .property file (i + 1)
        (ofDraft (draftOf .standard files) files).Means p := by
  let T := (draftOf .standard files).table
  obtain ⟨first, last, parent, items, hx, hf⟩ := exists_classDecl hblock hname hword htext
  obtain ⟨done, rest, hparts, hopening⟩ := exists_field_part hlines hx hf
  obtain ⟨haccounted, hext⟩ := accounted_done .standard hparts
  -- the class was declared before its fields are entered
  have hfind : ∃ s, (Draft.enterParts .standard {} done).table.find? owner .classKind = some s := by
    rw [← Option.isSome_iff_exists, ← haccounted.any_declares .classKind (by decide) owner,
      List.any_eq_true]
    refine ⟨⟨file, first, .classDef owner parent⟩, List.mem_filterMap.2 ⟨_, hopening, rfl⟩, ?_⟩
    simp [Mark.declares, Marker.declared?]
  obtain ⟨u, hu⟩ := hfind
  obtain ⟨hmem, huname, huk⟩ := SymbolTable.mem_of_find?_eq_some hu
  rw [Draft.enterPart, Draft.changeClass, hu] at hext
  have htells : Draft.Tells T True (FieldLine.sayings .standard file owner _) _ _ :=
    Draft.tells_enterField haccounted.wellFormed ⟨u, hmem, rfl, huk, huname⟩ _ hext.table
  simp only [FieldLine.sayings, Option.toList_some, List.map_singleton, tag.tagged_render]
    at htells
  obtain ⟨s, hs, hsname, e, he, houtline⟩ := htells.exists_entry hext (by rintro _ _ ⟨⟩)
  have hkind := Symbol.kind_of_mem_entries he
  cases e with
  | property p =>
    have hp : p ∈ s.properties := Symbol.property_mem_entries.1 he
    refine ⟨s, List.mem_filter.2 ⟨hs, beq_iff_eq.2 hkind⟩, hsname, p, hp, ?_⟩
    refine becomes_of_mem_signatures (Outline.property.inj houtline) ?_
    have hlist : p ∈ (draftOf .standard files).properties :=
      (Draft.balanced_draftOf .standard files).perm_properties.mem_iff.2
        (List.mem_flatMap.2 ⟨s, hs, hp⟩)
    simp only [Draft.signatures, List.mem_append]
    exact Or.inl (Or.inl (Or.inl (List.mem_map_of_mem hlist)))
  | _ => cases houtline

/-! ### Parameters -/

/-- The type of a parameter is one of the types of the draft. -/
theorem signature_mem_signatures {v : Vocabulary} {p : Member}
    (h : p ∈ (draftOf v files).parameters) : p.signature ∈ (draftOf v files).signatures := by
  simp only [Draft.signatures, List.mem_append]
  exact Or.inl (Or.inl (Or.inr (List.mem_map_of_mem h)))

section Param

variable {lines : List Text} {j : Nat} {text name arguments : Text} {tag : TypeTag}
  (hlines : files[file]? = some lines) (htext : lines[j]? = some text)
  (htag : tag.Annotates lines j line)
include hlines htext htag

/-- A method or function that is entered is the one on its line, with the parameters of its tags. -/
theorem outline_mem_params {part : Part} {f : FunctionLine}
    (hpart : (file, part) ∈ Part.ofFiles files) (hf : part.routine? = some f)
    (hline : f.line = j + 1) (hroutine : routineArguments? text = some arguments) :
    tag.outline .parameter file line ∈ f.params .standard file := by
  obtain ⟨⟨i, x⟩, hx, hmem⟩ := List.mem_flatMap.1 hpart
  obtain ⟨part, hpart, heq⟩ := List.mem_map.1 hmem
  cases heq
  obtain ⟨lines', hlines', hx⟩ := exists_lines_of_mem_ofFiles hx
  obtain rfl : lines' = lines := Option.some.inj (hlines'.symm.trans hlines)
  have hone : f ∈ ((ofLines lines').flatMap routines).filter (·.line == j + 1) :=
    List.mem_filter.2 ⟨List.mem_flatMap.2 ⟨x, hx, Part.routine_mem hpart hf⟩, beq_iff_eq.2 hline⟩
  rw [filter_routines_ofLines htext hroutine, List.mem_singleton] at hone
  rw [hone]
  exact htag.outline_mem_params (Nat.le_of_lt (List.getElem?_eq_some_iff.1 htext).1) _

/-- **A parameter tag above a method is a parameter of the method.** -/
theorem exists_methodParam {owner : Text} {separator : Char}
    (hmarker : marker? text = some (.method owner separator name arguments))
    (hbefore : DeclaredBefore files file (j + 1) .classKind owner) :
    ∃ s ∈ (ofDraft (draftOf .standard files) files).classes, s.name = owner ∧
      ∃ m ∈ s.methods, m.name = name ∧ m.file = file ∧ m.line = j + 1 ∧
        ∃ p ∈ m.routine.params, tag.Becomes .parameter file line
          (ofDraft (draftOf .standard files) files).Means p := by
  have hm : HasMarker files file (j + 1) (.method owner separator name arguments) :=
    ⟨j, lines, text, rfl, hlines, htext, hmarker⟩
  obtain ⟨done, part, rest, hparts, hdispatched, -, -⟩ := Draft.exists_part .standard hm
  obtain ⟨haccounted, hext⟩ := accounted_done .standard hparts
  have hpart : (file, part) ∈ Part.ofFiles files := by simp [hparts]
  have harguments : routineArguments? text = some arguments := by
    rw [routineArguments?, hmarker]
    rfl
  have hany := (declaredBefore_iff (marks_eq_append hparts hdispatched) .classKind owner).1 hbefore
  obtain ⟨f, rfl, hline, rfl, -, rfl⟩ := Part.exists_method hdispatched
  rw [haccounted.any_declares .classKind (by decide), Option.isSome_iff_exists] at hany
  obtain ⟨u, hu⟩ := hany
  have htells := Draft.tells_enterMethod_of_find? haccounted.wellFormed f hu hext.table
  obtain ⟨s, hs, hsname, e, he, houtline⟩ := htells.exists_entry hext (by rintro _ _ ⟨⟩)
  have hkind := Symbol.kind_of_mem_entries he
  cases e with
  | method m =>
    obtain ⟨hname, hroutine, hfile, hmline⟩ := Outline.method.inj houtline
    have hmem : m ∈ s.methods := Symbol.method_mem_entries.1 he
    obtain ⟨p, hp, hpoutline⟩ := Routine.exists_param hroutine
      (outline_mem_params hlines htext htag hpart rfl hline harguments)
    refine ⟨s, List.mem_filter.2 ⟨hs, beq_iff_eq.2 hkind⟩, hsname, m, hmem, hname, hfile,
      hmline.trans hline, p, hp, ?_⟩
    have hb := Draft.balanced_draftOf .standard files
    refine becomes_of_mem_signatures hpoutline (signature_mem_signatures ?_)
    refine hb.perm_parameters.mem_iff.2 (List.mem_append_left _ ?_)
    exact List.mem_flatMap.2
      ⟨m, hb.perm_methods.mem_iff.2 (List.mem_flatMap.2 ⟨s, hs, hmem⟩), hp⟩
  | _ => cases houtline

/-- **A parameter tag above a function is a parameter of the function**, if the function counts. -/
theorem exists_functionParam (hmarker : marker? text = some (.function name arguments))
    (hbefore : ¬DeclaredBefore files file (j + 1) .functionKind name) :
    ∃ s ∈ (ofDraft (draftOf .standard files) files).functions, s.name = name ∧
      ∃ r, s.routine? = some r ∧ ∃ p ∈ r.params, tag.Becomes .parameter file line
        (ofDraft (draftOf .standard files) files).Means p := by
  have hm : HasMarker files file (j + 1) (.function name arguments) :=
    ⟨j, lines, text, rfl, hlines, htext, hmarker⟩
  obtain ⟨done, part, rest, hparts, hdispatched, -, -⟩ := Draft.exists_part .standard hm
  obtain ⟨haccounted, hext⟩ := accounted_done .standard hparts
  have hpart : (file, part) ∈ Part.ofFiles files := by simp [hparts]
  have harguments : routineArguments? text = some arguments := by
    rw [routineArguments?, hmarker]
    rfl
  have hany := mt (declaredBefore_iff (marks_eq_append hparts hdispatched) .functionKind name).2
    hbefore
  obtain ⟨f, rfl, hline⟩ := Part.exists_function hdispatched
  rw [haccounted.any_declares .functionKind (by decide), Option.not_isSome_iff_eq_none] at hany
  have htells := (Draft.tells_enterFunction haccounted.wellFormed f hext.table).mono
    fun _ : True => hany
  obtain ⟨s, hs, hsname, e, he, houtline⟩ := htells.exists_entry hext (by rintro _ _ ⟨⟩)
  have hkind := Symbol.kind_of_mem_entries he
  cases e with
  | routine r =>
    have hr : s.routine? = some r := Symbol.routine_mem_entries.1 he
    obtain ⟨p, hp, hpoutline⟩ := Routine.exists_param (Outline.routine.inj houtline)
      (outline_mem_params hlines htext htag hpart rfl hline harguments)
    refine ⟨s, List.mem_filter.2 ⟨hs, beq_iff_eq.2 hkind⟩, hsname, r, hr, p, hp, ?_⟩
    refine becomes_of_mem_signatures hpoutline (signature_mem_signatures ?_)
    refine (Draft.balanced_draftOf .standard files).perm_parameters.mem_iff.2
      (List.mem_append_right _ ?_)
    refine List.mem_flatMap.2 ⟨s, hs, ?_⟩
    rw [hr]
    exact List.mem_flatMap.2 ⟨r, List.mem_singleton_self r, hp⟩
  | _ => cases houtline

end Param

/-! ### All tags -/

/-- **A tag says what its type is, whatever its description says.**  The type is cut out of the text
behind the name exactly.  A field in the block of a class is a property of the class.  A parameter
tag among the annotations of a line makes a parameter whenever the function on this line is read; so
it is a parameter of the method in the catalogue if the class was declared before, and of the
function if none of its name was.  All of them have the name in the tag, the type as it is written,
and the meaning of the type. -/
theorem ofTexts_taggedTypes (texts : List Text) :
    let c := ofTexts .standard texts
    let files := texts.map Text.lines
    (∀ t : DescribedType, TypeExpr.cut? t.text = some t.type.render) ∧
    ∀ (tag : TypeTag) (file : Nat) (lines : List Text), files[file]? = some lines →
      (∀ i owner, InClass lines owner i → Name.isName tag.name = true →
        tag.name ∉ visibilities → lines[i]? = some (tag.line "---@field".toList) →
        ∃ s ∈ c.classes, s.name = owner ∧
          ∃ p ∈ s.properties, tag.Becomes .property file (i + 1) c.Means p) ∧
      ∀ j line text arguments, lines[j]? = some text → routineArguments? text = some arguments →
        tag.Annotates lines j line →
        (∃ f, ((ofLines lines).flatMap routines).filter (·.line == j + 1) = [f] ∧
          ∀ owner d, let r := Draft.enterRoutine .standard file owner d f
            ∃ p ∈ r.2.params, p.parent = owner ∧ tag.Becomes .parameter file line
              (fun e signature => signature = e.meaning r.1.table.refer) p) ∧
        (∀ owner separator name, marker? text = some (.method owner separator name arguments) →
          DeclaredBefore files file (j + 1) .classKind owner →
          ∃ s ∈ c.classes, s.name = owner ∧
            ∃ m ∈ s.methods, m.name = name ∧ m.file = file ∧ m.line = j + 1 ∧
              ∃ p ∈ m.routine.params, tag.Becomes .parameter file line c.Means p) ∧
        ∀ name, marker? text = some (.function name arguments) →
          ¬DeclaredBefore files file (j + 1) .functionKind name →
          ∃ s ∈ c.functions, s.name = name ∧ ∃ r, s.routine? = some r ∧
            ∃ p ∈ r.params, tag.Becomes .parameter file line c.Means p := by
  intro c files
  refine ⟨DescribedType.cut?_text, fun tag file lines hlines => ⟨?_, ?_⟩⟩
  · intro i owner hblock hname hword htext
    exact exists_property hlines hblock hname hword htext
  · intro j line text arguments htext hroutine htag
    refine ⟨⟨_, filter_routines_ofLines htext hroutine, ?_⟩, ?_, ?_⟩
    · intro owner d
      exact htag.exists_param_enterRoutine (Nat.le_of_lt (List.getElem?_eq_some_iff.1 htext).1)
        file owner d
    · intro owner separator name hmarker hbefore
      exact exists_methodParam hlines htext htag hmarker hbefore
    · intro name hmarker hbefore
      exact exists_functionParam hlines htext htag hmarker hbefore

/-- Lists of `A` by their names, with a description that looks like a part of a type. -/
def listsTag : TypeTag where
  type := .generic "table".toList [.prim "string".toList, .array (.ref "A".toList)]
  wellFormed := by
    refine .generic (by decide) (by decide) (by simp) (fun h => absurd h (by decide))
      (fun h => absurd h (by decide)) (fun _ => rfl) ?_
    simp only [List.forall_mem_cons]
    exact ⟨.prim (by decide), .array (.ref (by decide) (by decide) (by decide)),
      List.forall_mem_nil _⟩
  gap := [' ']
  isBlank_gap := List.all_eq_true.1 rfl
  description := "or, fun(x: A".toList
  starts := by
    rintro c ⟨⟩
    decide
  gap_ne_nil _ := List.cons_ne_nil _ _
  name := "lists".toList
  lead := ⟨[' '], List.all_eq_true.1 rfl, List.cons_ne_nil _ _⟩
  between := ⟨[' ', '\t'], List.all_eq_true.1 rfl, List.cons_ne_nil _ _⟩

/-- One tag as a field of a class and as a parameter of its method. -/
theorem ofTexts_taggedTypes_lists :
    let text := Text.join ['\n'] (["---@class A",
      "---@field lists \ttable<string, A[]> or, fun(x: A",
      "---@param lists \ttable<string, A[]> or, fun(x: A",
      "function A:join(lists) end"].map String.toList)
    let c := ofTexts .standard [text]
    (∃ s ∈ c.classes, s.name = "A".toList ∧ ∃ p ∈ s.properties, p.name = "lists".toList ∧
      p.rawType = "table<string, A[]>".toList ∧ c.Means listsTag.type p.signature) ∧
    ∃ s ∈ c.classes, s.name = "A".toList ∧ ∃ m ∈ s.methods, m.name = "join".toList ∧
      ∃ p ∈ m.routine.params, p.name = "lists".toList ∧
        p.rawType = "table<string, A[]>".toList ∧ c.Means listsTag.type p.signature := by
  intro text c
  let lines := ["---@class A".toList, listsTag.line "---@field".toList,
    listsTag.line "---@param".toList, "function A:join(lists) end".toList]
  have hlines : [text].map Text.lines = [lines] := by decide +kernel
  have hclass : marker? "---@class A".toList = some (.classDef "A".toList none) := by decide
  have hbefore : DeclaredBefore [lines] 0 4 .classKind "A".toList :=
    ⟨0, 1, _, ⟨0, lines, _, rfl, rfl, rfl, hclass⟩, rfl, Or.inr ⟨rfl, by decide⟩⟩
  have hblock : InClass lines "A".toList 1 :=
    ⟨0, _, none, Nat.one_pos, rfl, hclass, fun k t hlt hgt => by omega⟩
  have htag : listsTag.Annotates lines 3 3 := by
    have hname : Name.IsParam listsTag.name := Or.inl (by decide)
    have hparam : param? (listsTag.line "---@param".toList) = some _ :=
      listsTag.param?_line hname (List.forall_mem_nil _)
    have hrun : [(listsTag.line "---@param".toList, 3)] <:+ annotations lines 3 := by
      refine suffix_annotations_iff.2 ⟨⟨(lines.take 2).zipIdx 1, rfl⟩, fun p hp => ?_⟩
      cases List.mem_singleton.1 hp
      simp only [annotates, hparam, Option.isSome_some, Bool.true_or]
    exact ⟨hname, [], List.forall_mem_nil _, hrun.subset (List.mem_singleton_self _)⟩
  obtain ⟨-, htags⟩ := ofTexts_taggedTypes [text]
  rw [hlines] at htags
  obtain ⟨hfield, hparam⟩ := htags listsTag 0 lines rfl
  obtain ⟨s, hs, hname, p, hp, hproperty⟩ := hfield 1 _ hblock (by decide) (by decide) rfl
  obtain ⟨-, hmethod, -⟩ := hparam 3 3 _ "lists".toList rfl (by decide) htag
  obtain ⟨s', hs', hname', m, hm, hmname, -, -, q, hq, hmember⟩ :=
    hmethod "A".toList ':' "join".toList (by decide) hbefore
  exact ⟨⟨s, hs, hname, p, hp, hproperty.name_eq, hproperty.rawType_eq, hproperty.means⟩,
    s', hs', hname', m, hm, hmname, q, hq, hmember.name_eq, hmember.rawType_eq, hmember.means⟩

end Catalog

end LuaAtlas
