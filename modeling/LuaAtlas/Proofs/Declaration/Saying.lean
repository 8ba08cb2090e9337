import LuaAtlas.Draft
import LuaAtlas.Proofs.Declaration.Dispatch
import LuaAtlas.Proofs.Symbol.Facts

/-!
# What a declaration says

A declaration by itself, before anything is entered, says certain things of certain names
(`Declaration.sayings`): on which line it ends, which parent a class has, and what belongs to the
class, enumeration, alias or function.  Types mention names and not numbers, so nothing but the text
counts; of the file nothing but its index does (`Declaration.sayings_move`).

Every type in what a declaration says was read, so it mentions at its top what any type inside it
mentions (`Declaration.sound_of_mem_sayings`).
-/

namespace LuaAtlas

/-- The type in a tag, optional if the name in the tag has a question mark. -/
def TypeExpr.tagged (v : Vocabulary) (type : Text) (optional : Bool) : Sketch :=
  let sketch := (read v (Text.trim type)).sketch
  if optional then sketch.optionalOf else sketch

theorem TypeExpr.gathers_tagged (v : Vocabulary) (type : Text) (optional : Bool) :
    (tagged v type optional).Gathers := by
  unfold tagged
  simp only
  split
  · exact (gathers_read v _).optionalOf
  · exact gathers_read v _

/-! ### Functions -/

/-- The parameter that a note makes. -/
def Note.params (v : Vocabulary) (file : Nat) : Note → List (MemberOutline Text)
  | param line name optional (some type) =>
    [{ kind := .parameter, name, rawType := type, type := TypeExpr.tagged v type optional, file,
       line }]
  | _ => []

namespace FunctionLine

/-- The parameters of a function: those of its notes, or the names in its argument list. -/
def params (v : Vocabulary) (file : Nat) (f : FunctionLine) : List (MemberOutline Text) :=
  if f.notes.any Note.isParam then f.notes.flatMap (Note.params v file)
  else
    (Draft.argumentNames v f.arguments).map fun name =>
      { kind := .parameter, name, rawType := "any".toList, type := .primitive "any".toList, file,
        line := f.line }

/-- The types of the return values, one after the other. -/
def values (v : Vocabulary) (f : FunctionLine) : List Sketch :=
  (Note.returnGroups f.notes).flatten.map fun p => (TypeExpr.read v (Text.trim p.2)).sketch

end FunctionLine

/-- The main return value and the others, if so many stand in front of the last return tag. -/
def mainReturn {ρ : Type} (v : Vocabulary) (earlier : Nat) (types : List (TypeNode ρ)) :
    TypeNode ρ × List (TypeNode ρ) :=
  match types.drop earlier with
  | [] => (.primitive v.voidName, [])
  | main :: later => (main, types.take earlier ++ later)

theorem mainReturn_map {ρ σ : Type} (v : Vocabulary) (earlier : Nat) (f : ρ → σ)
    (types : List (TypeNode ρ)) :
    mainReturn v earlier (types.map (·.mapRefs f)) =
      ((mainReturn v earlier types).1.mapRefs f,
        (mainReturn v earlier types).2.map (·.mapRefs f)) := by
  unfold mainReturn
  rw [← List.map_drop]
  cases types.drop earlier with
  | nil => rfl
  | cons main later => simp only [List.map_cons, List.map_append, List.map_take]

/-- Whatever is returned is one of the given types or the void type. -/
theorem mem_mainReturn {ρ : Type} {v : Vocabulary} {earlier : Nat} {types : List (TypeNode ρ)}
    {type : TypeNode ρ}
    (h : type ∈ (mainReturn v earlier types).1 :: (mainReturn v earlier types).2) :
    type ∈ types ∨ type = .primitive v.voidName := by
  unfold mainReturn at h
  split at h
  · rw [List.mem_singleton] at h
    exact Or.inr h
  · rename_i main later hdrop
    left
    rw [← List.take_append_drop earlier types, hdrop]
    simp only [List.mem_cons, List.mem_append] at h ⊢
    exact or_left_comm.1 h

/-- **What a function line and the notes above it say of the function.** -/
def FunctionLine.outline (v : Vocabulary) (file : Nat) (f : FunctionLine) : RoutineOutline Text :=
  let returned := mainReturn v (Note.returnGroups f.notes).dropLast.flatten.length (f.values v)
  { params := f.params v file, returns := returned.1, extraReturns := returned.2,
    declaration := f.text, description := Note.description f.notes }

/-! ### Declarations -/

/-- Something that is said of a name; symbols are known by their names. -/
abbrev Saying := Text × Fact Text Text

namespace Saying

/-- What belongs to a name. -/
def holds (name : Text) (o : Outline Text) : Saying := (name, .holds o)

/-- The last line of a declaration, if it is another one than the first. -/
def extent (name : Text) (line lastLine : Nat) : List Saying :=
  if lastLine = line then [] else [(name, .lastLine lastLine)]

/-- The same in another file. -/
def moved (move : Nat → Nat) (y : Saying) : Saying := (y.1, y.2.map id id move)

end Saying

/-- What the line of a method says of the class. -/
def MethodLine.saying (v : Vocabulary) (file : Nat) (m : MethodLine) : Saying :=
  .holds m.owner (.method m.name (m.toFunctionLine.outline v file) file m.line)

/-- What the line of a field says of the class; a field without a type says nothing. -/
def FieldLine.sayings (v : Vocabulary) (file : Nat) (owner : Text) (f : FieldLine) : List Saying :=
  f.type.toList.map fun type => .holds owner (.property
    { kind := .property, name := f.name, rawType := type, type := TypeExpr.tagged v type f.optional,
      file, line := f.line })

/-- What stands in the block of a class says this of the class, or of the owner of a method. -/
def ClassItem.sayings (v : Vocabulary) (file : Nat) (owner : Text) : ClassItem → List Saying
  | field f => f.sayings v file owner
  | method m => [m.saying v file]

/-- What a value says of the enumeration. -/
def EnumValue.saying (file : Nat) (owner : Text) (e : EnumValue) : Saying :=
  .holds owner (.value
    { kind := .enumValue, name := e.name, rawType := Literal.typeOfValue e.value,
      type := .primitive (Literal.typeOfValue e.value), value := some e.value, file,
      line := e.line })

/-- What an option says of the alias. -/
def OptionText.saying (v : Vocabulary) (owner : Text) : OptionText → Saying
  | type text => .holds owner (.option text (TypeExpr.read v (Text.trim text)).sketch)
  | literal text => .holds owner (.option text (.primitive text))

/-- What a class says of its parent; a class is not its own parent. -/
def parentSayings (name : Text) (parent : Option Text) : List Saying :=
  (parent.filter (· != name)).toList.map fun p => (name, .parent p)

namespace Declaration

/-- The name that is declared.  A method is not a symbol. -/
def name? : Declaration → Option Text
  | classDecl _ _ name _ _ => some name
  | enumDecl _ _ name _ _ => some name
  | aliasLine _ name _ => some name
  | aliasBlock _ _ name _ => some name
  | methodDecl _ => none
  | functionDecl name _ => some name

/-- **What a declaration says of which names.** -/
def sayings (v : Vocabulary) (file : Nat) : Declaration → List Saying
  | classDecl line lastLine name parent items =>
    parentSayings name parent ++ items.flatMap (·.sayings v file name) ++
      Saying.extent name line lastLine
  | enumDecl line lastLine name values _ =>
    values.map (·.saying file name) ++ Saying.extent name line lastLine
  | aliasLine _ name target =>
    (TypeExpr.cut? target).toList.map fun type => (OptionText.type type).saying v name
  | aliasBlock line lastLine name options =>
    options.map (·.2.saying v name) ++ Saying.extent name line lastLine
  | methodDecl m => [m.saying v file]
  | functionDecl name f => [.holds name (.routine (f.outline v file))]

end Declaration

/-! ### Other files -/

section Moving

variable (v : Vocabulary) (file : Nat) (move : Nat → Nat)

theorem FunctionLine.outline_move (f : FunctionLine) :
    f.outline v (move file) = (f.outline v file).map id move := by
  have hnote : ∀ note : Note,
      note.params v (move file) = (note.params v file).map (·.map id move) := by
    intro note
    match note with
    | .param line name optional (some type) =>
      simp only [Note.params, List.map_cons, List.map_nil, MemberOutline.map, TypeNode.mapRefs_id]
    | .param _ _ _ none => rfl
    | .returns _ _ => rfl
    | .doc _ => rfl
  have hparams : f.params v (move file) = (f.params v file).map (·.map id move) := by
    unfold FunctionLine.params
    split
    · rw [List.map_flatMap]
      exact List.flatMap_congr fun note _ => hnote note
    · rw [List.map_map]
      rfl
  simp only [FunctionLine.outline, RoutineOutline.map, hparams, TypeNode.mapRefs_id, List.map_id']

theorem MethodLine.saying_move (m : MethodLine) :
    m.saying v (move file) = (m.saying v file).moved move := by
  unfold MethodLine.saying
  rw [FunctionLine.outline_move]
  rfl

theorem ClassItem.sayings_move (owner : Text) (item : ClassItem) :
    item.sayings v (move file) owner = (item.sayings v file owner).map (·.moved move) := by
  cases item with
  | field f =>
    simp only [sayings, FieldLine.sayings, List.map_map]
    refine List.map_congr_left fun type _ => ?_
    simp only [Saying.moved, Saying.holds, Fact.map, Outline.map, MemberOutline.map,
      TypeNode.mapRefs_id, Function.comp_apply]
  | method m =>
    rw [sayings, sayings, MethodLine.saying_move]
    rfl

theorem OptionText.saying_moved (owner : Text) (o : OptionText) :
    (o.saying v owner).moved move = o.saying v owner := by
  cases o <;> simp only [saying, Saying.moved, Saying.holds, Fact.map, Outline.map,
    TypeNode.mapRefs_id]

theorem Saying.extent_moved (name : Text) (line lastLine : Nat) :
    (extent name line lastLine).map (·.moved move) = extent name line lastLine := by
  unfold extent
  split <;> rfl

/-- **In another file a declaration says the same of that file.** -/
theorem Declaration.sayings_move (x : Declaration) :
    x.sayings v (move file) = (x.sayings v file).map (·.moved move) := by
  cases x with
  | classDecl line lastLine name parent items =>
    have hparent : (parentSayings name parent).map (·.moved move) = parentSayings name parent := by
      unfold parentSayings
      rw [List.map_map]
      rfl
    have hitems : items.flatMap (·.sayings v (move file) name) =
        (items.flatMap (·.sayings v file name)).map (·.moved move) := by
      rw [List.map_flatMap]
      exact List.flatMap_congr fun item _ => ClassItem.sayings_move v file move name item
    simp only [sayings, List.map_append, hparent, hitems, Saying.extent_moved]
  | enumDecl line lastLine name values ending =>
    have hvalues : values.map (·.saying (move file) name) =
        (values.map (·.saying file name)).map (·.moved move) := by
      rw [List.map_map]
      rfl
    simp only [sayings, List.map_append, hvalues, Saying.extent_moved]
  | aliasLine line name target =>
    simp only [sayings, List.map_map, Function.comp_def, OptionText.saying_moved]
  | aliasBlock line lastLine name options =>
    simp only [sayings, List.map_append, List.map_map, Function.comp_def, OptionText.saying_moved,
      Saying.extent_moved]
  | methodDecl m =>
    rw [sayings, sayings, MethodLine.saying_move]
    rfl
  | functionDecl name f =>
    rw [sayings, sayings, FunctionLine.outline_move]
    rfl

end Moving

/-! ### Types -/

theorem FunctionLine.gathers_of_mem_types {v : Vocabulary} {file : Nat} {f : FunctionLine}
    {type : Sketch} (h : type ∈ (f.outline v file).types) : type.Gathers := by
  have hprimitive (name : Text) : (TypeNode.primitive name : Sketch).Gathers :=
    TypeNode.gathers_of_parts_eq_nil rfl
  rcases List.mem_append.1 h with h | h
  · obtain ⟨m, hm, rfl⟩ := List.mem_map.1 h
    have hm : m ∈ f.params v file := hm
    unfold FunctionLine.params at hm
    split at hm
    · obtain ⟨note, -, hm⟩ := List.mem_flatMap.1 hm
      unfold Note.params at hm
      split at hm
      · obtain rfl := List.mem_singleton.1 hm
        exact TypeExpr.gathers_tagged v _ _
      · cases hm
    · obtain ⟨name, -, rfl⟩ := List.mem_map.1 hm
      exact hprimitive _
  · rcases mem_mainReturn h with h | rfl
    · obtain ⟨p, -, rfl⟩ := List.mem_map.1 h
      exact TypeExpr.gathers_read v _
    · exact hprimitive _

/-- **Outlines as declarations make them**: types mention at their top what they mention inside, and
values of enumerations mention nothing. -/
structure Outline.Sound (o : Outline Text) : Prop where
  gathers : ∀ type ∈ o.types, type.Gathers
  refs_value : ∀ e, o = .value e → e.type.refs = []

theorem Outline.sound_property {p : MemberOutline Text} (h : p.type.Gathers) :
    (Outline.property p).Sound :=
  ⟨fun _ ht => List.mem_singleton.1 ht ▸ h, nofun⟩

theorem FunctionLine.sound_method {v : Vocabulary} {file line : Nat} {f : FunctionLine}
    {name : Text} : (Outline.method name (f.outline v file) file line).Sound :=
  ⟨fun _ ht => f.gathers_of_mem_types ht, nofun⟩

theorem OptionText.sound_of_saying {v : Vocabulary} {owner name : Text} {option : OptionText}
    {o : Outline Text} (h : option.saying v owner = (name, .holds o)) : o.Sound := by
  cases option with
  | type text =>
    cases h
    exact ⟨fun _ ht => List.mem_singleton.1 ht ▸ TypeExpr.gathers_read v _, nofun⟩
  | literal text =>
    cases h
    exact ⟨fun _ ht => List.mem_singleton.1 ht ▸ TypeNode.gathers_of_parts_eq_nil rfl, nofun⟩

theorem Saying.eq_of_mem_extent {y : Saying} {name : Text} {line lastLine : Nat}
    (h : y ∈ extent name line lastLine) : y = (name, .lastLine lastLine) := by
  unfold extent at h
  split at h
  · cases h
  · exact List.mem_singleton.1 h

/-- What stands in the block of a class says what belongs to something. -/
theorem ClassItem.exists_holds_of_mem {v : Vocabulary} {file : Nat} {owner : Text}
    {items : List ClassItem} {y : Saying} (h : y ∈ items.flatMap (·.sayings v file owner)) :
    ∃ name o, y = .holds name o := by
  obtain ⟨item, -, h⟩ := List.mem_flatMap.1 h
  cases item with
  | field f =>
    obtain ⟨type, -, rfl⟩ := List.mem_map.1 h
    exact ⟨_, _, rfl⟩
  | method m => exact ⟨_, _, List.mem_singleton.1 h⟩

/-- **What a declaration says belongs to a name is sound.** -/
theorem Declaration.sound_of_mem_sayings {v : Vocabulary} {file : Nat} {x : Declaration}
    {name : Text} {o : Outline Text} (h : (name, .holds o) ∈ x.sayings v file) : o.Sound := by
  cases x with
  | classDecl line lastLine owner parent items =>
    rcases List.mem_append.1 h with h | h
    · rcases List.mem_append.1 h with h | h
      · obtain ⟨p, -, hsaying⟩ := List.mem_map.1 h
        cases hsaying
      · obtain ⟨item, -, h⟩ := List.mem_flatMap.1 h
        cases item with
        | field f =>
          obtain ⟨text, -, hsaying⟩ := List.mem_map.1 h
          cases hsaying
          exact Outline.sound_property (TypeExpr.gathers_tagged v text f.optional)
        | method m =>
          cases List.mem_singleton.1 h
          exact FunctionLine.sound_method
    · cases Saying.eq_of_mem_extent h
  | enumDecl line lastLine owner values ending =>
    rcases List.mem_append.1 h with h | h
    · obtain ⟨e, -, hsaying⟩ := List.mem_map.1 h
      cases hsaying
      refine ⟨fun _ ht => List.mem_singleton.1 ht ▸ TypeNode.gathers_of_parts_eq_nil rfl, ?_⟩
      intro e heq
      cases heq
      rfl
    · cases Saying.eq_of_mem_extent h
  | aliasLine line owner target =>
    obtain ⟨text, -, hsaying⟩ := List.mem_map.1 h
    exact OptionText.sound_of_saying hsaying
  | aliasBlock line lastLine owner options =>
    rcases List.mem_append.1 h with h | h
    · obtain ⟨option, -, hsaying⟩ := List.mem_map.1 h
      exact OptionText.sound_of_saying hsaying
    · cases Saying.eq_of_mem_extent h
  | methodDecl m =>
    cases List.mem_singleton.1 h
    exact FunctionLine.sound_method
  | functionDecl owner f =>
    cases List.mem_singleton.1 h
    exact ⟨fun _ ht => f.gathers_of_mem_types ht, nofun⟩

/-! ### Parents -/

/-- Only a class has a parent, and it is the class that is declared. -/
theorem Declaration.parent_mem_sayings {v : Vocabulary} {file : Nat} {x : Declaration}
    {name p : Text} (h : (name, .parent p) ∈ x.sayings v file) :
    x.name? = some name ∧ ∃ line marker, (line, marker) ∈ x.dispatched ∧
      marker = Marker.classDef name (some p) := by
  cases x with
  | classDecl line lastLine owner parent items =>
    rcases List.mem_append.1 h with h | h
    · rcases List.mem_append.1 h with h | h
      · obtain ⟨q, hq, hsaying⟩ := List.mem_map.1 h
        cases hsaying
        have hparent : parent = some p := by
          rw [Option.mem_toList, Option.filter_eq_some_iff] at hq
          exact hq.1
        subst hparent
        exact ⟨rfl, line, _, List.mem_cons_self .., rfl⟩
      · obtain ⟨_, _, heq⟩ := ClassItem.exists_holds_of_mem h
        cases heq
    · cases Saying.eq_of_mem_extent h
  | enumDecl line lastLine owner values ending =>
    rcases List.mem_append.1 h with h | h
    · obtain ⟨e, -, hsaying⟩ := List.mem_map.1 h
      cases hsaying
    · cases Saying.eq_of_mem_extent h
  | aliasLine line owner target =>
    obtain ⟨type, -, hsaying⟩ := List.mem_map.1 h
    cases hsaying
  | aliasBlock line lastLine owner options =>
    rcases List.mem_append.1 h with h | h
    · obtain ⟨⟨_, option⟩, -, hsaying⟩ := List.mem_map.1 h
      cases option <;> cases hsaying
    · cases Saying.eq_of_mem_extent h
  | methodDecl m => cases List.mem_singleton.1 h
  | functionDecl owner f => cases List.mem_singleton.1 h

end LuaAtlas
