import LuaAtlas.Proofs.Declaration.Saying
import LuaAtlas.Proofs.Draft.Collecting
import LuaAtlas.Proofs.Symbol.Resolving
import LuaAtlas.Proofs.TypeExpr.Tree

/-!
# Reading functions

A function is read as its line and the notes above it say (`outline_enterRoutine`).  What they say
mentions names, and what is read mentions numbers.  The numbers may be taken from any later table
`T`, as long as names that have symbols keep them (`SymbolTable.PersistsIn`): reading only gives
symbols to names that have none (`Collects.persistsIn`).
-/

namespace LuaAtlas

/-- A name with the number of its symbol. -/
def SymbolTable.refer (t : SymbolTable) (name : Text) : Reference := ⟨name, t.idOf name⟩

namespace Draft

variable {v : Vocabulary} {d d' : Draft} {T : SymbolTable} {file line owner : Nat}

theorem Collects.persistsIn {params : List Member} (h : Collects file owner params d d') :
    d.table.PersistsIn d'.table := by
  induction h with
  | refl => exact .refl _
  | report h issues line ih => exact ih
  | resolve h name line ih => exact ih.trans (SymbolTable.persistsIn_resolve _ name file line)
  | parameter h p hid hparent hresolves ih => exact ih

/-! ### Types -/

/-- A type is read with the numbers that its names have later. -/
theorem readType_eq_sign {type : Text} (hT : (d.readType v type file line).1.table.PersistsIn T) :
    (d.readType v type file line).2 = T.sign (TypeExpr.read v (Text.trim type)).sketch := by
  rw [readType_snd]
  refine SymbolTable.sign_read_congr fun n hn => (hT.idOf_eq ?_).symm
  rw [table_readType]
  exact SymbolTable.isSome_lookup?_resolveAll hn

theorem readTagged_eq_sign {type : Text} {optional : Bool}
    (hT : (d.readTagged v type optional file line).1.table.PersistsIn T) :
    (d.readTagged v type optional file line).2 = T.sign (TypeExpr.tagged v type optional) := by
  have hread : (d.readType v type file line).2 = _ := readType_eq_sign hT
  cases optional with
  | false => exact hread
  | true =>
    show (d.readType v type file line).2.optionalOf = (TypeNode.optionalOf _).mapRefs _
    rw [hread, TypeNode.mapRefs_optionalOf]
    rfl

theorem readTypes_eq_sign {types : List (Nat × Text)}
    (hT : (d.readTypes v file types).1.table.PersistsIn T) :
    (d.readTypes v file types).2 =
      types.map fun p => T.sign (TypeExpr.read v (Text.trim p.2)).sketch := by
  induction types generalizing d with
  | nil => rfl
  | cons head types ih =>
    obtain ⟨line, type⟩ := head
    have hrest := (collects_readTypes v file 0 (d.readType v type file line).1 types).1
    rw [List.map_cons, ← ih hT, ← readType_eq_sign (hrest.persistsIn.trans hT)]
    rfl

/-! ### Notes -/

theorem outline_enterNote {note : Note}
    (hT : (d.enterNote v file owner note).1.table.PersistsIn T) :
    (d.enterNote v file owner note).2.map (·.outline) =
      (note.params v file).map (·.map T.refer id) := by
  match note with
  | .param _ _ _ none => rfl
  | .param line name optional (some type) =>
    have htype : (d.readTagged v type optional file line).2 = _ := readTagged_eq_sign hT
    simp only [enterNote, addParameter, Note.params, List.map_cons, List.map_nil, Member.outline,
      MemberOutline.map, htype]
    rfl
  | .returns _ [] => rfl
  | .returns _ (_ :: _) => rfl
  | .doc _ => rfl

theorem outline_enterNotes {notes : List Note}
    (hT : (d.enterNotes v file owner notes).1.table.PersistsIn T) :
    (d.enterNotes v file owner notes).2.map (·.outline) =
      (notes.flatMap (Note.params v file)).map (·.map T.refer id) := by
  induction notes generalizing d with
  | nil => rfl
  | cons note notes ih =>
    have hrest := collects_enterNotes v file owner (d.enterNote v file owner note).1 notes
    rw [List.flatMap_cons, List.map_append, ← outline_enterNote (hrest.persistsIn.trans hT),
      ← ih hT]
    exact List.map_append

theorem outline_enterArguments (names : List Text) :
    (d.enterArguments file owner line names).2.map (·.outline) =
      (names.map fun name =>
        ({ kind := .parameter, name, rawType := "any".toList, type := .primitive "any".toList,
           file, line } : MemberOutline Text)).map (·.map T.refer id) := by
  induction names generalizing d with
  | nil => rfl
  | cons name names ih => exact congrArg (List.cons _) ih

/-! ### Functions -/

theorem chooseReturn_eq (v : Vocabulary) (earlier : Nat) (signatures : List Signature) :
    chooseReturn v earlier signatures = mainReturn v earlier signatures := by
  unfold chooseReturn mainReturn
  cases signatures.drop earlier <;> rfl

/-- **A function is read as its line and notes say.** -/
theorem outline_enterRoutine {f : FunctionLine}
    (hT : (d.enterRoutine v file owner f).1.table.PersistsIn T) :
    (d.enterRoutine v file owner f).2.outline = (f.outline v file).map T.refer id := by
  have hlater (listed : Draft)
      (hT : (listed.readTypes v file (Note.returnGroups f.notes).flatten).1.table.PersistsIn T) :
      listed.table.PersistsIn T ∧
        chooseReturn v (Note.returnGroups f.notes).dropLast.flatten.length
          (listed.readTypes v file (Note.returnGroups f.notes).flatten).2 =
        ((f.outline v file).returns.mapRefs T.refer,
          (f.outline v file).extraReturns.map (·.mapRefs T.refer)) := by
    refine ⟨(collects_readTypes v file owner listed _).1.persistsIn.trans hT, ?_⟩
    rw [readTypes_eq_sign hT, chooseReturn_eq]
    have hmap := mainReturn_map v (Note.returnGroups f.notes).dropLast.flatten.length T.refer
      (f.values v)
    rw [FunctionLine.values, List.map_map] at hmap
    exact hmap
  -- the parameters come from the notes or, without tags, from the argument list
  by_cases hparam : f.notes.any Note.isParam = true
  · simp only [enterRoutine, hparam, ↓reduceIte] at hT ⊢
    obtain ⟨hpersists, hreturns⟩ := hlater _ hT
    simp only [Routine.outline, RoutineOutline.map, hreturns, outline_enterNotes hpersists,
      FunctionLine.outline, FunctionLine.params, hparam, ↓reduceIte]
  · simp only [enterRoutine, hparam, Bool.false_eq_true, ↓reduceIte] at hT ⊢
    obtain ⟨-, hreturns⟩ := hlater _ hT
    simp only [Routine.outline, RoutineOutline.map, hreturns, outline_enterArguments (T := T),
      FunctionLine.outline, FunctionLine.params, hparam, Bool.false_eq_true, ↓reduceIte]

end Draft

end LuaAtlas
