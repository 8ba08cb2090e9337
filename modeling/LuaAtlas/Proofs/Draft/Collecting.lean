import LuaAtlas.Proofs.Draft.Entering
import LuaAtlas.Proofs.Symbol.Extension
import LuaAtlas.Proofs.Symbol.Holding

/-!
# Reading types and notes

`Draft.Collects` says all that reading does to a draft: issues are reported, names are used, and
parameters are made for one owner.  It lists the parameters, so that nothing is made and forgotten
(`Collects.parameters_eq`); everything else in the draft stays as it is (`Collects.lists_eq`,
`Collects.held_eq`).

`collects_enterRoutine` brings the reading of a function into this form.  The types that are read
are resolved: every name in them stands for the symbol whose number goes with it
(`SymbolTable.Resolves`), and it does so from then on (`Collects.resolves`).
-/

namespace LuaAtlas

/-! ### Types whose names are resolved -/

namespace SymbolTable

/-- The names in a type stand for the symbols whose numbers it holds. -/
def Resolves (t : SymbolTable) (signature : Signature) : Prop :=
  ∀ r ∈ signature.refs, ∃ s, t.lookup? r.token = some s ∧ s.id = r.id

variable {t : SymbolTable} {signature : Signature}

theorem resolves_primitive (t : SymbolTable) (name : Text) : t.Resolves (.primitive name) :=
  nofun

theorem Resolves.optionalOf (h : t.Resolves signature) : t.Resolves signature.optionalOf := by
  unfold Resolves
  rw [TypeNode.refs_optionalOf]
  exact h

/-- The numbers in such a type are numbers of symbols. -/
theorem Resolves.has (h : t.Resolves signature) {r : Reference} (hr : r ∈ signature.refs) :
    t.Has r.id := by
  obtain ⟨s, hl, hid⟩ := h r hr
  exact ⟨s, (mem_of_lookup?_eq_some hl).1, hid⟩

/-- Types stay resolved when further names are used. -/
theorem Resolves.resolve (h : t.Resolves signature) (name : Text) (file line : Nat) :
    (t.resolve name file line).1.Resolves signature := by
  intro r hr
  obtain ⟨s, hl, hid⟩ := h r hr
  exact ⟨s, lookup?_resolve_of_eq_some hl, hid⟩

/-- A type is resolved when its names have been used. -/
theorem resolves_sign {sketch : Sketch} {used : List Text} {file line : Nat}
    (h : ∀ name ∈ sketch.refs, name ∈ used) :
    (t.resolveAll used file line).Resolves ((t.resolveAll used file line).sign sketch) := by
  intro r hr
  rw [sign, TypeNode.refs_mapRefs, List.mem_map] at hr
  obtain ⟨name, hname, rfl⟩ := hr
  obtain ⟨s, hs⟩ : ∃ s, (t.resolveAll used file line).lookup? name = some s :=
    exists_lookup?_resolveAll (h name hname)
  refine ⟨s, hs, ?_⟩
  show s.id = idOf _ name
  rw [idOf, hs]
  rfl

end SymbolTable

namespace Draft

variable {v : Vocabulary} {d d' d'' : Draft} {file line owner : Nat} {params params' : List Member}
  {signature : Signature}

/-! ### Reading -/

/-- **What reading can do**: report issues, use names and make parameters for one owner.  The list
holds the parameters in the order of their making. -/
inductive Collects (file owner : Nat) : List Member → Draft → Draft → Prop
  | refl (d : Draft) : Collects file owner [] d d
  | report {params : List Member} {d d' : Draft} (h : Collects file owner params d d')
      (issues : List Issue) (line : Nat) :
      Collects file owner params d (d'.reportAll issues file line)
  | resolve {params : List Member} {d d' : Draft} (h : Collects file owner params d d')
      (name : Text) (line : Nat) : Collects file owner params d (d'.resolve name file line).1
  | parameter {params : List Member} {d d' : Draft} (h : Collects file owner params d d')
      (p : Member) (hid : p.id = d'.table.nextId) (hparent : p.parent = owner)
      (hresolves : d'.table.Resolves p.signature) :
      Collects file owner (params ++ [p]) d
        { d'.fresh.1 with parameters := d'.parameters ++ [p] }

theorem Collects.trans (h : Collects file owner params d d')
    (h' : Collects file owner params' d' d'') :
    Collects file owner (params ++ params') d d'' := by
  induction h' with
  | refl =>
    rw [List.append_nil]
    exact h
  | report h' issues line ih => exact (ih h).report issues line
  | resolve h' name line ih => exact (ih h).resolve name line
  | parameter h' p hid hparent hresolves ih =>
    rw [← List.append_assoc]
    exact (ih h).parameter p hid hparent hresolves

theorem Collects.resolves (h : Collects file owner params d d') (hr : d.table.Resolves signature) :
    d'.table.Resolves signature := by
  induction h with
  | refl => exact hr
  | report h issues line ih => exact ih hr
  | resolve h name line ih => exact (ih hr).resolve name file line
  | parameter h p hid hparent hresolves ih => exact ih hr

/-- The parameters belong to the owner, and their types are resolved. -/
theorem Collects.of_mem (h : Collects file owner params d d') {p : Member} (hp : p ∈ params) :
    p.parent = owner ∧ d'.table.Resolves p.signature := by
  induction h with
  | refl => cases hp
  | report h issues line ih => exact ih hp
  | resolve h name line ih =>
    obtain ⟨hparent, hresolves⟩ := ih hp
    exact ⟨hparent, hresolves.resolve name file line⟩
  | parameter h q hid hparent hresolves ih =>
    rcases List.mem_append.1 hp with hp | hp
    · exact ih hp
    · rw [List.mem_singleton] at hp
      subst hp
      exact ⟨hparent, hresolves⟩

theorem Collects.parameters_eq (h : Collects file owner params d d') :
    d'.parameters = d.parameters ++ params := by
  induction h with
  | refl => rw [List.append_nil]
  | report h issues line ih => exact ih
  | resolve h name line ih => exact ih
  | parameter h p hid hparent hresolves ih =>
    show _ ++ [p] = _
    rw [ih, List.append_assoc]

/-- Nothing but parameters is listed, and no edge is recorded. -/
theorem Collects.lists_eq (h : Collects file owner params d d') :
    d'.properties = d.properties ∧ d'.methods = d.methods ∧ d'.edgeCount = d.edgeCount := by
  induction h with
  | refl => exact ⟨rfl, rfl, rfl⟩
  | report h issues line ih => exact ih
  | resolve h name line ih => exact ih
  | parameter h p hid hparent hresolves ih => exact ih

/-- Symbols keep what they hold. -/
theorem Collects.held_eq {β : Type} {part : Symbol → List β} (hp : Symbol.Steady part)
    (h : Collects file owner params d d') : d'.table.held part = d.table.held part := by
  induction h with
  | refl => rfl
  | report h issues line ih => exact ih
  | resolve h name line ih => exact (SymbolTable.held_resolve hp ..).trans ih
  | parameter h p hid hparent hresolves ih => exact ih

/-- Reading changes no symbol. -/
theorem Collects.symbols_subset (hread : Collects file owner params d d') :
    d.table.symbols ⊆ d'.table.symbols := by
  induction hread with
  | refl => exact fun _ hs => hs
  | report hread issues line ih => exact ih
  | resolve hread name line ih => exact fun _ hs => SymbolTable.symbols_subset_resolve (ih hs)
  | parameter hread p hid hparent hresolves ih => exact ih

/-! ### Types and notes -/

theorem collects_resolveAll (file owner : Nat) (d : Draft) (names : List Text) (line : Nat) :
    Collects file owner [] d { d with table := d.table.resolveAll names file line } := by
  induction names generalizing d with
  | nil => exact .refl d
  | cons name names ih =>
    have hone : Collects file owner [] d (d.resolve name file line).1 :=
      (Collects.refl d).resolve name line
    exact hone.trans (ih (d.resolve name file line).1)

theorem collects_readType (v : Vocabulary) (owner : Nat) (d : Draft) (type : Text)
    (file line : Nat) : Collects file owner [] d (d.readType v type file line).1 := by
  rw [readType_eq_read]
  exact (collects_resolveAll file owner d _ line).report _ line

theorem resolves_readType (v : Vocabulary) (d : Draft) (type : Text) (file line : Nat) :
    (d.readType v type file line).1.table.Resolves (d.readType v type file line).2 := by
  rw [readType_eq_read]
  exact SymbolTable.resolves_sign fun name hname => (TypeExpr.mem_refs_read_iff v _ name).1 hname

theorem collects_readTagged (v : Vocabulary) (owner : Nat) (d : Draft) (type : Text)
    (optional : Bool) (file line : Nat) :
    Collects file owner [] d (d.readTagged v type optional file line).1 :=
  collects_readType v owner d type file line

theorem resolves_readTagged (v : Vocabulary) (d : Draft) (type : Text) (optional : Bool)
    (file line : Nat) :
    (d.readTagged v type optional file line).1.table.Resolves
      (d.readTagged v type optional file line).2 := by
  have hread := resolves_readType v d type file line
  cases optional with
  | false => exact hread
  | true => exact hread.optionalOf

theorem collects_enterNote (v : Vocabulary) (file owner : Nat) (d : Draft) (note : Note) :
    Collects file owner (d.enterNote v file owner note).2 d (d.enterNote v file owner note).1 := by
  match note with
  | .param line name _ none => exact (Collects.refl d).report [.untypedParam name] line
  | .param line name optional (some type) =>
    exact (collects_readTagged v owner d type optional file line).parameter _ rfl rfl
      (resolves_readTagged v d type optional file line)
  | .returns line [] => exact (Collects.refl d).report [.untypedReturn] line
  | .returns _ (_ :: _) => exact .refl d
  | .doc _ => exact .refl d

theorem collects_enterNotes (v : Vocabulary) (file owner : Nat) (d : Draft) (notes : List Note) :
    Collects file owner (d.enterNotes v file owner notes).2 d
      (d.enterNotes v file owner notes).1 := by
  induction notes generalizing d with
  | nil => exact .refl d
  | cons note notes ih => exact (collects_enterNote v file owner d note).trans (ih _)

/-- Without a parameter tag the notes make no parameter. -/
theorem params_enterNotes_eq_nil (v : Vocabulary) (file owner : Nat) (d : Draft)
    {notes : List Note} (h : notes.any Note.isParam = false) :
    (d.enterNotes v file owner notes).2 = [] := by
  induction notes generalizing d with
  | nil => rfl
  | cons note notes ih =>
    rw [List.any_cons, Bool.or_eq_false_iff] at h
    have hnote : (d.enterNote v file owner note).2 = [] := by
      match note, h.1 with
      | .returns _ [], _ => rfl
      | .returns _ (_ :: _), _ => rfl
      | .doc _, _ => rfl
    rw [enterNotes]
    simp only
    rw [hnote, ih _ h.2]
    rfl

theorem collects_enterArguments (file owner line : Nat) (d : Draft) (names : List Text) :
    Collects file owner (d.enterArguments file owner line names).2 d
      (d.enterArguments file owner line names).1 := by
  induction names generalizing d with
  | nil => exact .refl d
  | cons name names ih =>
    let r := d.addParameter owner name "any".toList (.primitive "any".toList) file line
    have hone : Collects file owner [r.2] d r.1 :=
      (Collects.refl d).parameter r.2 rfl rfl (SymbolTable.resolves_primitive _ _)
    exact hone.trans (ih r.1)

theorem collects_readTypes (v : Vocabulary) (file owner : Nat) (d : Draft)
    (types : List (Nat × Text)) :
    Collects file owner [] d (d.readTypes v file types).1 ∧
      ∀ signature ∈ (d.readTypes v file types).2,
        (d.readTypes v file types).1.table.Resolves signature := by
  induction types generalizing d with
  | nil => exact ⟨.refl d, nofun⟩
  | cons head types ih =>
    obtain ⟨line, type⟩ := head
    obtain ⟨hrest, hresolves⟩ := ih (d.readType v type file line).1
    refine ⟨(collects_readType v owner d type file line).trans hrest, fun signature hs => ?_⟩
    rcases List.mem_cons.1 hs with rfl | hs
    · exact hrest.resolves (resolves_readType v d type file line)
    · exact hresolves signature hs

/-- What a function returns was read, or is the void type. -/
theorem mem_chooseReturn (v : Vocabulary) (earlier : Nat) {values : List Signature}
    (h : signature ∈ (chooseReturn v earlier values).1 :: (chooseReturn v earlier values).2) :
    signature ∈ values ∨ signature = .primitive v.voidName := by
  unfold chooseReturn at h
  split at h
  · rw [List.mem_singleton] at h
    exact Or.inr h
  · rename_i main later hdrop
    left
    rw [← List.take_append_drop earlier values, hdrop]
    simp only [List.mem_cons, List.mem_append] at h ⊢
    exact or_left_comm.1 h

/-- **A function is read**: its parameters are made, in order, and its types are resolved. -/
theorem collects_enterRoutine (v : Vocabulary) (file owner : Nat) (d : Draft) (f : FunctionLine) :
    Collects file owner (d.enterRoutine v file owner f).2.params d
        (d.enterRoutine v file owner f).1 ∧
      ∀ signature ∈ (d.enterRoutine v file owner f).2.allReturns,
        (d.enterRoutine v file owner f).1.table.Resolves signature := by
  have htagged := collects_enterNotes v file owner d f.notes
  obtain ⟨listed, hlisted, hdef⟩ : ∃ listed : Draft × List Member,
      Collects file owner listed.2 d listed.1 ∧ listed =
        if f.notes.any Note.isParam then d.enterNotes v file owner f.notes
        else (d.enterNotes v file owner f.notes).1.enterArguments file owner f.line
          (argumentNames v f.arguments) := by
    refine ⟨_, ?_, rfl⟩
    split
    · exact htagged
    · rename_i hnone
      rw [params_enterNotes_eq_nil v file owner d (by simpa using hnone)] at htagged
      exact htagged.trans (collects_enterArguments file owner f.line _ _)
  obtain ⟨hvalues, hresolves⟩ :=
    collects_readTypes v file owner listed.1 (Note.returnGroups f.notes).flatten
  unfold enterRoutine
  simp only
  rw [← hdef]
  constructor
  · have hall := hlisted.trans hvalues
    rw [List.append_nil] at hall
    exact hall
  · intro signature hs
    rcases mem_chooseReturn v _ hs with hs | rfl
    · exact hresolves signature hs
    · exact SymbolTable.resolves_primitive _ _

end Draft

end LuaAtlas
