import LuaAtlas.Draft
import LuaAtlas.Proofs.Declaration.Dispatch
import LuaAtlas.Proofs.Draft.Typing
import LuaAtlas.Proofs.Symbol.Growth

/-!
# What entering a declaration does to a draft

`Draft.Enters` extends the growth of the symbol table to the whole draft: besides the sites and
names that are added it follows the names that the kept types mention.  Reading a type adds the
names that it mentions (`reads_readType`), and whatever is read is kept in the end, so every
declaration adds its own names and, to the table and to the kept types alike, the names that it read
(`Accounts`).  There is one lemma for each kind of declaration (`accounts_enterClass`,
`accounts_enterEnum`, `accounts_enterAliasBlock`, `accounts_enterFunction`,
`accounts_enterMethodInto`).
-/

namespace LuaAtlas.Draft

open SymbolTable (Grows)

/-- The types that a draft keeps: those of properties and parameters, those that methods return and
those that symbols hold. -/
def signatures (d : Draft) : List Signature :=
  d.properties.map (·.signature) ++ d.parameters.map (·.signature) ++
    d.methods.flatMap (·.routine.allReturns) ++ d.table.signatures

/-- **How a draft grows**: its table by declarations at `sites` and by symbols for `added`, its kept
types by mentions of `kept`. -/
structure Enters (sites : List Site) (added kept : Set Text) (d d' : Draft) : Prop where
  grows : ∃ held, Grows sites added held d.table d'.table
  mentioned_eq : mentioned d'.signatures = mentioned d.signatures ∪ kept

variable {v : Vocabulary} {d d' d'' : Draft} {kind : SymbolKind} {name : Text} {file line id : Nat}
  {sites sites' : List Site} {added added' kept kept' : Set Text}

theorem Enters.wellFormed (h : Enters sites added kept d d') : d'.table.WellFormed := by
  obtain ⟨held, hg⟩ := h.grows
  exact hg.wellFormed

theorem Enters.holds (h : Enters sites added kept d d') (hk : kind ≠ .unknown)
    (hold : d.table.Holds id kind) : d'.table.Holds id kind := by
  obtain ⟨held, hg⟩ := h.grows
  exact hg.holds id kind hk hold

theorem Enters.trans (h : Enters sites added kept d d') (h' : Enters sites' added' kept' d' d'') :
    Enters (sites ++ sites') (added ∪ added') (kept ∪ kept') d d'' := by
  obtain ⟨held, hg⟩ := h.grows
  obtain ⟨held', hg'⟩ := h'.grows
  refine ⟨⟨held ∪ held', hg.trans hg'⟩, ?_⟩
  rw [h'.mentioned_eq, h.mentioned_eq, Set.union_assoc]

/-- A draft grows as its table does, if it lists no new member. -/
theorem Enters.of_grows (h : Grows sites added kept d.table d'.table)
    (hproperties : d'.properties = d.properties) (hparameters : d'.parameters = d.parameters)
    (hmethods : d'.methods = d.methods) : Enters sites added kept d d' := by
  refine ⟨⟨kept, h⟩, ?_⟩
  rw [signatures, hproperties, hparameters, hmethods, mentioned_append, h.mentioned_eq,
    ← Set.union_assoc, ← mentioned_append]
  rfl

/-- A draft that keeps its table may keep new types. -/
theorem Enters.of_keep (h : d.table.WellFormed) (htable : d'.table = d.table)
    (hkept : mentioned d'.signatures = mentioned d.signatures ∪ kept) :
    Enters [] ∅ kept d d' := by
  refine ⟨⟨∅, ?_⟩, hkept⟩
  rw [htable]
  exact .of_symbols_eq h rfl

/-- **Every name that was read is kept**: apart from `declared`, the draft gets symbols for those
names only that the types which it newly keeps mention. -/
def Accounts (sites : List Site) (declared : Set Text) (d d' : Draft) : Prop :=
  ∃ read, Enters sites (declared ∪ read) read d d'

theorem Accounts.wellFormed {declared : Set Text} (h : Accounts sites declared d d') :
    d'.table.WellFormed := by
  obtain ⟨read, h⟩ := h
  exact h.wellFormed

theorem Accounts.holds {declared : Set Text} (h : Accounts sites declared d d')
    (hk : kind ≠ .unknown) (hold : d.table.Holds id kind) : d'.table.Holds id kind := by
  obtain ⟨read, h⟩ := h
  exact h.holds hk hold

theorem Accounts.trans {declared declared' : Set Text} (h : Accounts sites declared d d')
    (h' : Accounts sites' declared' d' d'') :
    Accounts (sites ++ sites') (declared ∪ declared') d d'' := by
  obtain ⟨read, h⟩ := h
  obtain ⟨read', h'⟩ := h'
  refine ⟨read ∪ read', ?_⟩
  rw [Set.union_union_union_comm]
  exact h.trans h'

/-- A step that reads nothing. -/
theorem Enters.accounts (h : Enters sites added ∅ d d') : Accounts sites added d d' := by
  refine ⟨∅, ?_⟩
  rw [Set.union_empty]
  exact h

/-- A step that declares nothing and keeps what it reads. -/
theorem Enters.accounts_of_read (h : Enters [] kept kept d d') : Accounts [] ∅ d d' := by
  refine ⟨kept, ?_⟩
  rw [Set.empty_union]
  exact h

/-! ### Quiet steps -/

/-- Nothing is declared, used or kept. -/
abbrev Quiet (d d' : Draft) : Prop := Enters [] ∅ ∅ d d'

theorem Enters.quiet (h : Enters sites added kept d d') (hq : Quiet d' d'') :
    Enters sites added kept d d'' := by
  have hall := h.trans hq
  rw [List.append_nil, Set.union_empty, Set.union_empty] at hall
  exact hall

theorem Quiet.enters (hq : Quiet d d') (h : Enters sites added kept d' d'') :
    Enters sites added kept d d'' := by
  have hall := hq.trans h
  rw [List.nil_append, Set.empty_union, Set.empty_union] at hall
  exact hall

theorem Accounts.quiet {declared : Set Text} (h : Accounts sites declared d d')
    (hq : Quiet d' d'') : Accounts sites declared d d'' := by
  obtain ⟨read, h⟩ := h
  exact ⟨read, h.quiet hq⟩

/-- A step that leaves the table and the lists of members alone. -/
theorem Quiet.of_eq (h : d.table.WellFormed) (htable : d'.table = d.table)
    (hproperties : d'.properties = d.properties) (hparameters : d'.parameters = d.parameters)
    (hmethods : d'.methods = d.methods) : Quiet d d' := by
  refine .of_grows ?_ hproperties hparameters hmethods
  rw [htable]
  exact .of_symbols_eq h rfl

theorem quiet_report (h : d.table.WellFormed) (issue : Issue) (file line : Nat) :
    Quiet d (d.report issue file line) :=
  .of_eq h rfl rfl rfl rfl

theorem quiet_reportAll (h : d.table.WellFormed) (issues : List Issue) (file line : Nat) :
    Quiet d (d.reportAll issues file line) :=
  .of_eq h rfl rfl rfl rfl

theorem quiet_fresh (h : d.table.WellFormed) : Quiet d d.fresh.1 :=
  .of_grows h.grows_fresh rfl rfl rfl

theorem quiet_modify (h : d.table.WellFormed) {f : Symbol → Symbol} (hf : Symbol.Spares f)
    (id : Nat) : Quiet d (d.modify id f) :=
  .of_grows (h.grows_modify_quiet hf) rfl rfl rfl

theorem quiet_track (h : d.table.WellFormed) (kind : EdgeKind) (referencer : Nat)
    (signature : Signature) : Quiet d (d.track kind referencer signature) :=
  .of_grows (h.grows_addReferences _ _) rfl rfl rfl

theorem quiet_trackAll (h : d.table.WellFormed) (kind : EdgeKind) (referencer : Nat)
    (signatures : List Signature) : Quiet d (d.trackAll kind referencer signatures) := by
  induction signatures generalizing d with
  | nil => exact .of_eq h rfl rfl rfl rfl
  | cons signature signatures ih =>
    have hone := quiet_track h kind referencer signature
    exact hone.quiet (ih hone.wellFormed)

theorem quiet_trackRoutine (h : d.table.WellFormed) (kind : EdgeKind) (referencer : Nat)
    (r : Routine) : Quiet d (d.trackRoutine kind referencer r) := by
  have hparams := quiet_trackAll h .parameter referencer (r.params.map (·.signature))
  exact hparams.quiet (quiet_trackAll hparams.wellFormed kind referencer r.allReturns)

theorem quiet_setLastLine (h : d.table.WellFormed) (id file line lastLine : Nat) :
    Quiet d (d.setLastLine id file line lastLine) :=
  quiet_modify h (Symbol.spares_setLastLine file line lastLine) id

/-! ### Reading -/

/-- Types are read: symbols are added and members may be listed, but no symbol is changed. -/
structure Reads (added kept : Set Text) (d d' : Draft) : Prop extends
    Enters [] added kept d d' where
  symbols_subset : d.table.symbols ⊆ d'.table.symbols

theorem Reads.trans (h : Reads added kept d d') (h' : Reads added' kept' d' d'') :
    Reads (added ∪ added') (kept ∪ kept') d d'' :=
  ⟨h.toEnters.trans h'.toEnters, fun _ hs => h'.symbols_subset (h.symbols_subset hs)⟩

theorem Reads.refl (h : d.table.WellFormed) : Reads ∅ ∅ d d :=
  ⟨Quiet.of_eq h rfl rfl rfl rfl, fun _ hs => hs⟩

/-- The names in a type whose symbols were found. -/
theorem mentioned_sign (t : SymbolTable) (sketch : Sketch) :
    mentioned [t.sign sketch] = {name | name ∈ sketch.refs} := by
  ext name
  simp [mentioned, SymbolTable.sign]

@[simp] theorem mentioned_primitive (name : Text) : mentioned [.primitive name] = ∅ := by
  ext n
  simp [mentioned, TypeNode.primitive, TypeNode.leaf]

/-- **Reading a type** adds the names that it mentions. -/
theorem reads_readType (v : Vocabulary) (h : d.table.WellFormed) (type : Text) (file line : Nat) :
    Reads (mentioned [(d.readType v type file line).2]) ∅ d (d.readType v type file line).1 := by
  have hset : mentioned [(d.readType v type file line).2] =
      {name | name ∈ (TypeExpr.read v (Text.trim type)).mentions} := by
    rw [readType_snd]
    refine (mentioned_sign _ _).trans ?_
    ext name
    exact TypeExpr.mem_refs_read_iff v (Text.trim type) name
  rw [hset, readType_eq_read]
  exact ⟨.of_grows (h.grows_resolveAll _ file line) rfl rfl rfl,
    SymbolTable.symbols_subset_resolveAll _⟩

theorem reads_readTagged (v : Vocabulary) (h : d.table.WellFormed) (type : Text) (optional : Bool)
    (file line : Nat) :
    Reads (mentioned [(d.readTagged v type optional file line).2]) ∅ d
      (d.readTagged v type optional file line).1 := by
  have hread := reads_readType v h type file line
  cases optional with
  | false => exact hread
  | true =>
    have hset : mentioned [(d.readType v type file line).2.optionalOf] =
        mentioned [(d.readType v type file line).2] := by
      ext name
      simp only [mentioned, List.mem_singleton, exists_eq_left, TypeNode.refs_optionalOf]
    show Reads (mentioned [(d.readType v type file line).2.optionalOf]) ∅ d _
    rw [hset]
    exact hread

theorem reads_readTypes (v : Vocabulary) (file : Nat) (h : d.table.WellFormed)
    (types : List (Nat × Text)) :
    Reads (mentioned (d.readTypes v file types).2) ∅ d (d.readTypes v file types).1 := by
  induction types generalizing d with
  | nil =>
    rw [readTypes, mentioned_nil]
    exact .refl h
  | cons head types ih =>
    obtain ⟨line, type⟩ := head
    have hone := reads_readType v h type file line
    have hall := hone.trans (ih hone.wellFormed)
    rw [Set.union_empty, ← mentioned_append] at hall
    exact hall

/-- As many types are read as are given. -/
theorem length_readTypes (v : Vocabulary) (file : Nat) (d : Draft) (types : List (Nat × Text)) :
    (d.readTypes v file types).2.length = types.length := by
  induction types generalizing d with
  | nil => rfl
  | cons head types ih =>
    obtain ⟨line, type⟩ := head
    rw [readTypes, List.length_cons, ih, List.length_cons]

/-! ### Keeping -/

section Keeping

variable (h : d.table.WellFormed)

include h

theorem enters_keepProperty (p : Member) :
    Enters [] ∅ (mentioned [p.signature]) d { d with properties := d.properties ++ [p] } := by
  refine .of_keep h rfl ?_
  simp only [signatures, List.map_append, List.map_cons, List.map_nil, mentioned_append]
  simp only [Set.union_assoc, Set.union_comm, Set.union_left_comm]

theorem enters_keepParameter (p : Member) :
    Enters [] ∅ (mentioned [p.signature]) d { d with parameters := d.parameters ++ [p] } := by
  refine .of_keep h rfl ?_
  simp only [signatures, List.map_append, List.map_cons, List.map_nil, mentioned_append]
  simp only [Set.union_assoc, Set.union_comm, Set.union_left_comm]

theorem enters_keepMethod (m : Method) :
    Enters [] ∅ (mentioned m.routine.allReturns) d { d with methods := d.methods ++ [m] } := by
  refine .of_keep h rfl ?_
  simp only [signatures, List.flatMap_append, List.flatMap_singleton, mentioned_append]
  simp only [Set.union_assoc, Set.union_comm, Set.union_left_comm]

end Keeping

/-! ### Functions -/

/-- A new parameter is kept with its type. -/
theorem reads_addParameter (h : d.table.WellFormed) (owner : Nat) (name rawType : Text)
    (signature : Signature) (file line : Nat) :
    Reads ∅ (mentioned [signature]) d
      (d.addParameter owner name rawType signature file line).1 :=
  ⟨(quiet_fresh h).enters (enters_keepParameter h.fresh
    (d.addParameter owner name rawType signature file line).2), fun _ hs => hs⟩

/-- A note adds the names in the types of the parameters that it makes. -/
theorem reads_enterNote (v : Vocabulary) (file owner : Nat) (h : d.table.WellFormed) (note : Note) :
    Reads (mentioned ((d.enterNote v file owner note).2.map (·.signature)))
      (mentioned ((d.enterNote v file owner note).2.map (·.signature))) d
      (d.enterNote v file owner note).1 := by
  have hquiet : ∀ d', Quiet d d' → d'.table = d.table →
      Reads (mentioned ([].map Member.signature)) (mentioned ([].map Member.signature)) d d' := by
    intro d' hq htable
    rw [List.map_nil, mentioned_nil]
    exact ⟨hq, fun s hs => htable ▸ hs⟩
  match note with
  | .param line name _ none => exact hquiet _ (quiet_report h _ _ _) rfl
  | .param line name optional (some type) =>
    have hread := reads_readTagged v h type optional file line
    have hall := hread.trans (reads_addParameter hread.wellFormed owner name type
      (d.readTagged v type optional file line).2 file line)
    rw [Set.union_empty, Set.empty_union] at hall
    exact hall
  | .returns line [] => exact hquiet _ (quiet_report h _ _ _) rfl
  | .returns _ (_ :: _) => exact hquiet _ (.of_eq h rfl rfl rfl rfl) rfl
  | .doc _ => exact hquiet _ (.of_eq h rfl rfl rfl rfl) rfl

theorem reads_enterNotes (v : Vocabulary) (file owner : Nat) (h : d.table.WellFormed)
    (notes : List Note) :
    Reads (mentioned ((d.enterNotes v file owner notes).2.map (·.signature)))
      (mentioned ((d.enterNotes v file owner notes).2.map (·.signature))) d
      (d.enterNotes v file owner notes).1 := by
  induction notes generalizing d with
  | nil =>
    rw [enterNotes, List.map_nil, mentioned_nil]
    exact .refl h
  | cons note notes ih =>
    have hone := reads_enterNote v file owner h note
    have hall := hone.trans (ih hone.wellFormed)
    rw [← mentioned_append, ← List.map_append] at hall
    exact hall

/-- Parameters without tags mention nothing. -/
theorem reads_enterArguments (file owner line : Nat) (h : d.table.WellFormed) (names : List Text) :
    Reads ∅ ∅ d (d.enterArguments file owner line names).1 := by
  induction names generalizing d with
  | nil => exact .refl h
  | cons name names ih =>
    have hone := reads_addParameter h owner name "any".toList (.primitive "any".toList) file line
    rw [mentioned_primitive] at hone
    have hall := hone.trans (ih hone.wellFormed)
    rw [Set.union_empty] at hall
    exact hall

/-- Every value that was read is returned, as the main value or as another. -/
theorem mentioned_chooseReturn (v : Vocabulary) {earlier : Nat} {values : List Signature}
    (h : values.drop earlier = [] → values = []) :
    mentioned ((chooseReturn v earlier values).1 :: (chooseReturn v earlier values).2) =
      mentioned values := by
  rw [chooseReturn]
  split
  · rename_i hdrop
    rw [h hdrop, mentioned_primitive, mentioned_nil]
  · rename_i main later hdrop
    have hvalues : mentioned values =
        mentioned (values.take earlier) ∪ mentioned (main :: later) := by
      rw [← mentioned_append, ← hdrop, List.take_append_drop]
    rw [hvalues, mentioned_cons, mentioned_cons main later, mentioned_append, Set.union_left_comm]

theorem values?_ne_some_nil (note : Note) : note.values? ≠ some [] := by
  match note with
  | .param .. => exact nofun
  | .returns _ [] => exact nofun
  | .returns _ (_ :: _) => exact nofun
  | .doc _ => exact nofun

/-- The last return tag with values has a first value. -/
theorem eq_nil_of_drop_returnGroups {notes : List Note} {values : List Signature}
    (hlength : values.length = (Note.returnGroups notes).flatten.length)
    (hdrop : values.drop (Note.returnGroups notes).dropLast.flatten.length = []) : values = [] := by
  rcases List.eq_nil_or_concat (Note.returnGroups notes) with hnil | ⟨groups, last, hconcat⟩
  · rw [hnil] at hlength
    exact List.eq_nil_of_length_eq_zero hlength
  · rw [List.concat_eq_append] at hconcat
    have hmem : last ∈ Note.returnGroups notes := by
      rw [hconcat]
      exact List.mem_append_right _ (List.mem_singleton_self _)
    obtain ⟨note, -, hnote⟩ := List.mem_filterMap.1 hmem
    have hpos : 0 < last.length := by
      refine List.length_pos_iff.2 fun hlast => values?_ne_some_nil note ?_
      rw [hnote, hlast]
    -- the values of the last tag stand behind all others
    rw [hconcat, List.dropLast_concat, List.drop_eq_nil_iff] at hdrop
    rw [hconcat, List.flatten_append, List.length_append, List.flatten_singleton] at hlength
    omega

/-- The return values add the names that they mention. -/
theorem reads_returns (v : Vocabulary) (file : Nat) (h : d.table.WellFormed) (notes : List Note) :
    let groups := Note.returnGroups notes
    let values := d.readTypes v file groups.flatten
    let returned := chooseReturn v groups.dropLast.flatten.length values.2
    Reads (mentioned (returned.1 :: returned.2)) ∅ d values.1 := by
  intro groups values returned
  have hreturned : mentioned (returned.1 :: returned.2) = mentioned values.2 :=
    mentioned_chooseReturn v fun hdrop =>
      eq_nil_of_drop_returnGroups (length_readTypes v file d groups.flatten) hdrop
  rw [hreturned]
  exact reads_readTypes v file h groups.flatten

/-- **A function keeps all it reads**: the types of its parameters at once, its return values in
what is known of it. -/
theorem reads_enterRoutine (v : Vocabulary) (file owner : Nat) (h : d.table.WellFormed)
    (f : FunctionLine) :
    ∃ params : Set Text,
      Reads (params ∪ mentioned (d.enterRoutine v file owner f).2.allReturns) params d
        (d.enterRoutine v file owner f).1 := by
  have htagged := reads_enterNotes v file owner h f.notes
  obtain ⟨params, hlisted⟩ : ∃ params, Reads params params d
      (if f.notes.any Note.isParam then d.enterNotes v file owner f.notes
        else (d.enterNotes v file owner f.notes).1.enterArguments file owner f.line
          (argumentNames v f.arguments)).1 := by
    split
    · exact ⟨_, htagged⟩
    · have hall := htagged.trans
        (reads_enterArguments file owner f.line htagged.wellFormed (argumentNames v f.arguments))
      rw [Set.union_empty] at hall
      exact ⟨_, hall⟩
  have hall := hlisted.trans (reads_returns v file hlisted.wellFormed f.notes)
  rw [Set.union_empty] at hall
  exact ⟨params, hall⟩

/-- A method is stored with its return values. -/
theorem enters_storeMethod (h : d.table.WellFormed) (owner : Nat) (method : Method) :
    Enters [] ∅ (mentioned method.routine.allReturns) d
      (({ d.modify owner (·.mapBody (·.addMethod method)) with
        methods := d.methods ++ [method] }).trackRoutine .method method.id method.routine) := by
  have hmodify : Quiet d (d.modify owner (·.mapBody (·.addMethod method))) :=
    quiet_modify h (Symbol.spares_addMethod method) owner
  have hkeep := hmodify.enters (enters_keepMethod hmodify.wellFormed method)
  exact hkeep.quiet (quiet_trackRoutine hkeep.wellFormed .method method.id method.routine)

/-- **A method** adds the names that it mentions, if it has a class; else it adds nothing. -/
theorem accounts_enterMethodInto (v : Vocabulary) (file : Nat) (h : d.table.WellFormed)
    (m : MethodLine) (owner : Option Nat) :
    Accounts [] ∅ d (d.enterMethodInto v file m owner) := by
  cases owner with
  | none => exact (quiet_report h _ _ _).accounts
  | some owner =>
    have hfresh := quiet_fresh h
    obtain ⟨params, hroutine⟩ := reads_enterRoutine v file d.fresh.2 hfresh.wellFormed
      m.toFunctionLine
    have hread := hfresh.enters hroutine.toEnters
    have hall := hread.trans (enters_storeMethod hread.wellFormed owner
      { id := d.fresh.2, parent := owner, name := m.name,
        routine := (d.fresh.1.enterRoutine v file d.fresh.2 m.toFunctionLine).2, file,
        line := m.line })
    rw [Set.union_empty] at hall
    exact hall.accounts_of_read

/-- What was read of a function is stored in its symbol. -/
theorem enters_storeRoutine (h : d.table.WellFormed) {s : Symbol} (hs : s ∈ d.table.symbols)
    (hk : s.kind = .functionKind) (hnone : s.routine? = none) (r : Routine) :
    Enters [] ∅ (mentioned r.allReturns) d
      ((d.modify s.id (·.mapBody (·.setRoutine r))).trackRoutine .globalFunction s.id r) := by
  have hmodify : Enters [] ∅ (mentioned r.allReturns) d
      (d.modify s.id (·.mapBody (·.setRoutine r))) := by
    refine .of_grows (h.grows_modify (Symbol.keeps_mapBody (Body.kind_setRoutine r)) ?_
      fun _ => ⟨s, hs, rfl⟩) rfl rfl rfl
    -- the function held no routine, so none is lost
    intro u hu hid
    obtain rfl := h.eq_of_id_eq hu hs hid
    rw [Symbol.signatures_setRoutine hk hnone, mentioned_append]
  exact hmodify.quiet (quiet_trackRoutine hmodify.wellFormed .globalFunction s.id r)

/-- A declaration is entered and a conflict reported. -/
theorem enters_declare (h : d.table.WellFormed) (kind : SymbolKind) (hk : kind ≠ .unknown)
    (name : Text) (file line : Nat) :
    Enters [⟨kind, name, file, line⟩] {name} ∅ d (d.declare kind name file line).1 ∧
      (d.declare kind name file line).1.table.Holds (d.declare kind name file line).2 kind := by
  obtain ⟨hgrows, hholds⟩ := h.grows_declare hk name file line
  exact ⟨.of_grows hgrows rfl rfl rfl, hholds⟩

/-- **A global function** adds its site, its name and the names that it mentions, unless it was
entered before. -/
theorem accounts_enterFunction (v : Vocabulary) (file : Nat) (h : d.table.WellFormed) (name : Text)
    (f : FunctionLine) :
    Accounts [⟨.functionKind, name, file, f.line⟩] {name} d (d.enterFunction v file name f) := by
  obtain ⟨hdeclare, hholds⟩ := enters_declare h .functionKind nofun name file f.line
  rw [enterFunction]
  simp only
  split
  · exact hdeclare.accounts
  · rename_i s hget
    obtain ⟨hs, hid⟩ := SymbolTable.mem_of_get?_eq_some hget
    split
    · exact hdeclare.accounts.quiet (quiet_report hdeclare.wellFormed _ _ _)
    · rename_i hroutine
      have hnone : s.routine? = none := by simpa using hroutine
      have hkind : s.kind = .functionKind := by
        obtain ⟨u, hu, huid, huk⟩ := hholds
        rw [hdeclare.wellFormed.eq_of_id_eq hs hu (hid.trans huid.symm), huk]
      rw [← hid]
      obtain ⟨params, hread⟩ := reads_enterRoutine v file s.id hdeclare.wellFormed f
      -- reading leaves the function alone, so it can take what was read
      have hall := hread.toEnters.trans (enters_storeRoutine hread.wellFormed
        (hread.symbols_subset hs) hkind hnone
        ((d.declare .functionKind name file f.line).1.enterRoutine v file s.id f).2)
      rw [Set.union_empty] at hall
      have hboth := hdeclare.trans hall
      rw [Set.empty_union] at hboth
      exact ⟨_, hboth⟩

/-! ### Blocks -/

/-- The parts of a block are entered one after the other, into a symbol that keeps its kind. -/
theorem accounts_foldl {α : Type} {owner : Nat} {step : Draft → α → Draft} (h : d.table.WellFormed)
    (hold : d.table.Holds owner kind) (hk : kind ≠ .unknown)
    (hstep : ∀ {d : Draft}, d.table.WellFormed → d.table.Holds owner kind →
      ∀ a, Accounts [] ∅ d (step d a))
    (parts : List α) : Accounts [] ∅ d (parts.foldl step d) := by
  induction parts generalizing d with
  | nil => exact (Quiet.of_eq h rfl rfl rfl rfl).accounts
  | cons part parts ih =>
    have hone := hstep h hold part
    have hall := hone.trans (ih hone.wellFormed (hone.holds hk hold))
    rw [Set.union_empty] at hall
    exact hall

/-- A property is stored with its type. -/
theorem enters_storeProperty (h : d.table.WellFormed) (p : Member) :
    Enters [] ∅ (mentioned [p.signature]) d
      (({ d.modify p.parent (·.mapBody (·.addProperty p)) with
        properties := d.properties ++ [p] }).track .property p.id p.signature) := by
  have hmodify : Quiet d (d.modify p.parent (·.mapBody (·.addProperty p))) :=
    quiet_modify h (Symbol.spares_addProperty p) p.parent
  have hkeep := hmodify.enters (enters_keepProperty hmodify.wellFormed p)
  exact hkeep.quiet (quiet_track hkeep.wellFormed .property p.id p.signature)

/-- A field adds the names that its type mentions. -/
theorem accounts_enterField (v : Vocabulary) (file owner : Nat) (ownerName : Text)
    (h : d.table.WellFormed) (f : FieldLine) :
    Accounts [] ∅ d (d.enterField v file owner ownerName f) := by
  rw [enterField]
  split
  · exact (quiet_report h _ _ _).accounts
  · rename_i type _
    -- read, numbered, stored, tracked: the names that were read are kept with the property
    have hread := reads_readTagged v h type f.optional file f.line
    have hfresh := hread.toEnters.quiet (quiet_fresh hread.wellFormed)
    have hall := hfresh.trans (enters_storeProperty hfresh.wellFormed
      { id := (d.readTagged v type f.optional file f.line).1.fresh.2, kind := .property,
        parent := owner, name := f.name, rawType := type,
        signature := (d.readTagged v type f.optional file f.line).2, file, line := f.line })
    rw [Set.union_empty, Set.empty_union] at hall
    exact hall.accounts_of_read

theorem accounts_enterItem (v : Vocabulary) (file owner : Nat) (ownerName : Text)
    (h : d.table.WellFormed) (item : ClassItem) :
    Accounts [] ∅ d (d.enterItem v file owner ownerName item) := by
  cases item with
  | field f => exact accounts_enterField v file owner ownerName h f
  | method m => exact accounts_enterMethodInto v file h m _

theorem quiet_linkParent (h : d.table.WellFormed) (id parent : Nat) (name : Text)
    (file line : Nat) : Quiet d (d.linkParent id parent name file line) := by
  rw [linkParent]
  split
  · exact quiet_report h _ _ _
  · have hparent := quiet_modify h (Symbol.spares_setParent parent) id
    exact hparent.quiet (quiet_modify hparent.wellFormed (Symbol.spares_addChild id) parent)

/-- A class that is declared, linked or not, is filled with what stands in its block. -/
theorem accounts_fillClass (v : Vocabulary) (h : d.table.WellFormed)
    (hold : d.table.Holds id .classKind) (name : Text) (file line lastLine : Nat)
    (items : List ClassItem) :
    Accounts [] ∅ d
      ((items.foldl (enterItem v file id name) d).setLastLine id file line lastLine) := by
  have hfilled : Accounts [] ∅ d (items.foldl (enterItem v file id name) d) :=
    accounts_foldl h hold nofun (fun h _ item => accounts_enterItem v file id name h item) items
  exact hfilled.quiet (quiet_setLastLine hfilled.wellFormed id file line lastLine)

/-- **A class** adds its site, its name, the name of its parent and what its block mentions. -/
theorem accounts_enterClass (v : Vocabulary) (file : Nat) (h : d.table.WellFormed)
    (line lastLine : Nat) (name : Text) (parent : Option Text) (items : List ClassItem) :
    Accounts [⟨.classKind, name, file, line⟩] ({p | parent = some p} ∪ {name}) d
      (d.enterClass v file line lastLine name parent items) := by
  cases parent with
  | none =>
    obtain ⟨hdeclare, hholds⟩ := enters_declare h .classKind nofun name file line
    have hall := hdeclare.accounts.trans
      (accounts_fillClass v hdeclare.wellFormed hholds name file line lastLine items)
    have hset : {p : Text | none = some p} ∪ {name} = {name} ∪ ∅ := by
      ext n
      simp
    rw [hset]
    exact hall
  | some parent =>
    -- the parent is used before the class is declared, at the same line
    have hresolve : Enters [] {parent} ∅ d (d.resolve parent file line).1 :=
      .of_grows (h.grows_resolve parent file line) rfl rfl rfl
    obtain ⟨hdeclare, hholds⟩ :=
      enters_declare hresolve.wellFormed .classKind nofun name file line
    have hlink := quiet_linkParent hdeclare.wellFormed
      ((d.resolve parent file line).1.declare .classKind name file line).2
      (d.resolve parent file line).2 name file line
    have hlinked := (hresolve.trans hdeclare).quiet hlink
    rw [Set.union_empty] at hlinked
    have hall := hlinked.accounts.trans (accounts_fillClass v hlinked.wellFormed
      (hlink.holds nofun hholds) name file line lastLine items)
    have hset : {p : Text | some parent = some p} ∪ {name} = {parent} ∪ {name} ∪ ∅ := by
      ext n
      simp [eq_comm]
    rw [hset]
    exact hall

/-- The values of an enumeration mention nothing. -/
theorem quiet_enterValue (h : d.table.WellFormed) (file owner : Nat) (e : EnumValue) :
    Quiet d (d.enterValue file owner e) := by
  have hfresh := quiet_fresh h
  exact hfresh.quiet (quiet_modify hfresh.wellFormed (Symbol.spares_addValue _) owner)

theorem accounts_enterEnum (file : Nat) (h : d.table.WellFormed) (line lastLine : Nat) (name : Text)
    (values : List EnumValue) (ending : EnumEnd) :
    Accounts [⟨.enumKind, name, file, line⟩] {name} d
      (d.enterEnum file line lastLine name values ending) := by
  obtain ⟨hdeclare, hholds⟩ := enters_declare h .enumKind nofun name file line
  have hfilled := hdeclare.accounts.trans (accounts_foldl hdeclare.wellFormed hholds nofun
    (fun h _ e => (quiet_enterValue h file (d.declare .enumKind name file line).2 e).accounts)
    values)
  rw [Set.union_empty] at hfilled
  have hreported := hfilled.quiet (quiet_reportAll hfilled.wellFormed
    (endingIssue? name ending).toList file line)
  exact hreported.quiet (quiet_setLastLine hreported.wellFormed _ file line lastLine)

/-- An option is stored in its alias with its type. -/
theorem enters_storeOption (h : d.table.WellFormed) {owner : Nat}
    (hold : d.table.Holds owner .aliasKind) (option : AliasOption) :
    Enters [] ∅ (mentioned [option.signature]) d
      (d.modify owner (·.mapBody (·.addOption option))) := by
  obtain ⟨s, hs, rfl, hk⟩ := hold
  refine .of_grows (h.grows_modify (Symbol.keeps_mapBody (Body.kind_addOption option)) ?_
    fun _ => ⟨s, hs, rfl⟩) rfl rfl rfl
  intro u hu hid
  obtain rfl := h.eq_of_id_eq hu hs hid
  rw [Symbol.signatures_addOption hk, mentioned_append]

/-- An option adds the names that it mentions. -/
theorem accounts_enterOption (v : Vocabulary) (file : Nat) {owner : Nat} (h : d.table.WellFormed)
    (hold : d.table.Holds owner .aliasKind) (option : Nat × OptionText) :
    Accounts [] ∅ d (d.enterOption v file owner option) := by
  match option with
  | (_, .literal text) =>
    have hstore := enters_storeOption h hold ⟨text, .primitive text⟩
    rw [mentioned_primitive] at hstore
    exact hstore.accounts
  | (line, .type text) =>
    have hread := reads_readType v h text file line
    have hall := hread.toEnters.trans (enters_storeOption hread.wellFormed
      (hread.holds nofun hold) ⟨text, (d.readType v text file line).2⟩)
    rw [Set.union_empty, Set.empty_union] at hall
    exact hall.accounts_of_read

theorem accounts_enterAliasLine (v : Vocabulary) (file : Nat) (h : d.table.WellFormed) (line : Nat)
    (name target : Text) :
    Accounts [⟨.aliasKind, name, file, line⟩] {name} d
      (d.enterAliasLine v file line name target) := by
  obtain ⟨hdeclare, hholds⟩ := enters_declare h .aliasKind nofun name file line
  rw [enterAliasLine]
  split
  · exact (hdeclare.quiet (quiet_report hdeclare.wellFormed _ file line)).accounts
  · rename_i type _
    have hall := hdeclare.accounts.trans
      (accounts_enterOption v file hdeclare.wellFormed hholds (line, .type type))
    rw [Set.union_empty] at hall
    exact hall

theorem accounts_enterAliasBlock (v : Vocabulary) (file : Nat) (h : d.table.WellFormed)
    (line lastLine : Nat) (name : Text) (options : List (Nat × OptionText)) :
    Accounts [⟨.aliasKind, name, file, line⟩] {name} d
      (d.enterAliasBlock v file line lastLine name options) := by
  obtain ⟨hdeclare, hholds⟩ := enters_declare h .aliasKind nofun name file line
  have hfilled := hdeclare.accounts.trans (accounts_foldl hdeclare.wellFormed hholds nofun
    (fun h hold option => accounts_enterOption v file h hold option) options)
  rw [Set.union_empty] at hfilled
  rw [enterAliasBlock]
  split
  · have hreported := hfilled.quiet (quiet_report hfilled.wellFormed (.emptyAlias name) file line)
    exact hreported.quiet (quiet_setLastLine hreported.wellFormed _ file line lastLine)
  · exact hfilled.quiet (quiet_setLastLine hfilled.wellFormed _ file line lastLine)

end LuaAtlas.Draft
