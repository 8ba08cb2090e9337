import LuaAtlas.Proofs.Catalog.Parts
import LuaAtlas.Proofs.Draft.Balance
import LuaAtlas.Proofs.Draft.Conflicts

/-!
# Every declaration is accounted for

A method needs a class that was declared before it, and a function counts only where it is declared
first.  What becomes of a method or function line can be told from the marker lines in front of it
alone (`Mark.refusal?`, `Mark.stored?`).

`Draft.Accounted` compares a draft with the marker lines that were entered so far: the refusals and
the methods are those that these lines lead to, in order, and conflicts make up for the names that
are declared more than once.  Every part keeps it (`Accounted.enterPart`), and so do all parts of
files, one after the other (`Accounted.enterParts`).
-/

namespace LuaAtlas

/-! ### What marker lines lead to -/

namespace Mark

variable {β : Type} {f : List Mark → Mark → Option β} {marks later : List Mark} {m : Mark}

/-- What marker lines lead to, each with the lines in front of it. -/
def collect (f : List Mark → Mark → Option β) (earlier : List Mark) : List Mark → List β
  | [] => []
  | m :: marks => (f earlier m).toList ++ collect f (earlier ++ [m]) marks

theorem collect_append (f : List Mark → Mark → Option β) (earlier marks later : List Mark) :
    collect f earlier (marks ++ later) =
      collect f earlier marks ++ collect f (earlier ++ marks) later := by
  induction marks generalizing earlier with
  | nil =>
    rw [List.append_nil]
    rfl
  | cons m marks ih =>
    rw [List.cons_append, collect, collect, ih, List.append_assoc, List.append_assoc]
    rfl

/-- Where a marker line stands. -/
def place (m : Mark) : Nat × Nat := (m.file, m.line)

theorem mem_collect {earlier : List Mark} {b : β} (h : b ∈ collect f earlier marks) :
    ∃ m ∈ marks, ∃ earlier, f earlier m = some b := by
  induction marks generalizing earlier with
  | nil => cases h
  | cons m marks ih =>
    rcases List.mem_append.1 h with h | h
    · exact ⟨m, List.mem_cons_self .., earlier, Option.mem_toList.1 h⟩
    · obtain ⟨m', hm', h⟩ := ih h
      exact ⟨m', List.mem_cons_of_mem _ hm', h⟩

/-- Of several marker lines one leads to what stands at its place. -/
theorem filter_collect {placeOf : β → Nat × Nat}
    (hplace : ∀ earlier m b, f earlier m = some b → placeOf b = m.place)
    (hsorted : (marks ++ m :: later).Pairwise Before) :
    (collect f [] (marks ++ m :: later)).filter (placeOf · == m.place) = (f marks m).toList := by
  have hother (earlier others : List Mark) (h : ∀ m' ∈ others, m'.place ≠ m.place) :
      (collect f earlier others).filter (placeOf · == m.place) = [] := by
    refine List.filter_eq_nil_iff.2 fun b hb => ?_
    obtain ⟨m', hm', earlier, hf⟩ := mem_collect hb
    rw [hplace _ _ _ hf, beq_iff_eq]
    exact h m' hm'
  have hne {a b : Mark} (h : Before a b) : a.place ≠ b.place := by
    intro he
    obtain ⟨hfile, hline⟩ := Prod.mk.inj he
    rcases h with h | ⟨-, h⟩ <;> omega
  -- no two marker lines have one place, so only the line itself is left
  obtain ⟨-, hlater, hmarks⟩ := List.pairwise_append.1 hsorted
  have hown : (f marks m).toList.filter (placeOf · == m.place) = (f marks m).toList := by
    refine List.filter_eq_self.2 fun b hb => ?_
    rw [hplace _ _ _ (Option.mem_toList.1 hb), beq_self_eq_true]
  rw [collect_append, List.nil_append, collect, List.filter_append, List.filter_append, hown,
    hother [] marks fun m' hm' => hne (hmarks m' hm' m (List.mem_cons_self ..)),
    hother _ later fun m' hm' => (hne ((List.pairwise_cons.1 hlater).1 m' hm')).symm,
    List.nil_append, List.append_nil]

/-- **The refusal that a marker line leads to.**  A method is refused unless its class was declared
in front of it, and a function is refused if it was. -/
def refusal? (earlier : List Mark) (m : Mark) : Option Diagnostic :=
  match m.marker with
  | .method owner separator name _ =>
    if earlier.any (declares .classKind owner) then none
    else some ⟨.unknownOwner owner separator name, m.file, m.line⟩
  | .function name _ =>
    (earlier.find? (declares .functionKind name)).map fun first =>
      ⟨.duplicateFunction name first.file first.line, m.file, m.line⟩
  | _ => none

/-- **Where a method is stored**, if its class was declared in front of it. -/
def stored? (earlier : List Mark) (m : Mark) : Option (Nat × Nat) :=
  match m.marker with
  | .method owner _ _ _ => if earlier.any (declares .classKind owner) then some m.place else none
  | _ => none

end Mark

/-- Where a diagnostic was met. -/
def Diagnostic.place (x : Diagnostic) : Nat × Nat := (x.file, x.line)

/-- Where a method was declared. -/
def Method.place (m : Method) : Nat × Nat := (m.file, m.line)

namespace Mark

theorem place_refusal? {earlier : List Mark} {m : Mark} {x : Diagnostic}
    (h : refusal? earlier m = some x) : x.place = m.place := by
  unfold refusal? at h
  split at h
  · split at h
    · cases h
    · cases h
      rfl
  · obtain ⟨first, -, rfl⟩ := Option.map_eq_some_iff.1 h
    rfl
  · cases h

theorem place_stored? {earlier : List Mark} {m : Mark} {place : Nat × Nat}
    (h : stored? earlier m = some place) : place = m.place := by
  unfold stored? at h
  split at h
  · split at h
    · cases h
      rfl
    · cases h
  · cases h

end Mark

/-! ### Drafts and marker lines -/

namespace Draft

variable {v : Vocabulary} {d d' : Draft} {file line : Nat} {marks new : List Mark}
  {kind : SymbolKind} {name : Text} {names : Set Text}

theorem Steps.filled (hsteps : Steps file d d') (hw : d.table.WellFormed)
    (h : d.table.Filled ∅) : d'.table.Filled ∅ := by
  induction hsteps with
  | refl => exact h
  | tail hsteps hone ih => exact hone.filled (Steps.wellFormed hsteps hw) ih

/-- **A draft accounts for the marker lines that were entered.** -/
structure Accounted (marks : List Mark) (d : Draft) : Prop where
  wellFormed : d.table.WellFormed
  filled : d.table.Filled ∅
  place?_eq : ∀ kind name, kind ≠ .unknown →
    d.table.place? kind name = Site.first? (Mark.sites marks) kind name
  refusals_eq : d.refusals = Mark.collect Mark.refusal? [] marks
  methods_eq : d.methods.map Method.place = Mark.collect Mark.stored? [] marks
  tallied : d.Tallied

theorem accounted_empty : Accounted [] {} :=
  ⟨SymbolTable.wellFormed_empty, nofun, fun _ _ _ => rfl, rfl, rfl, rfl⟩

/-- A symbol is found where the first marker line put it. -/
theorem Accounted.find?_map (h : Accounted marks d) (kind : SymbolKind) (hk : kind ≠ .unknown)
    (name : Text) :
    (d.table.find? name kind).map (fun s => (s.file, s.firstLine)) =
      (marks.find? (Mark.declares kind name)).map Mark.place := by
  rw [← SymbolTable.place?, h.place?_eq kind name hk, Mark.first?_sites]
  rfl

theorem Accounted.any_declares (h : Accounted marks d) (kind : SymbolKind) (hk : kind ≠ .unknown)
    (name : Text) :
    marks.any (Mark.declares kind name) = (d.table.find? name kind).isSome := by
  have hmap := congrArg Option.isSome (h.find?_map kind hk name)
  rw [Option.isSome_map, Option.isSome_map] at hmap
  rw [hmap, Bool.eq_iff_iff, List.any_eq_true, List.find?_isSome]

/-- What a change has to do for the marker lines that it enters. -/
theorem Accounted.extend (h : Accounted marks d) (hsteps : Steps file d d')
    (haccounts : Accounts (Mark.sites new) names d d')
    (hrefusals : d'.refusals = d.refusals ++ Mark.collect Mark.refusal? marks new)
    (hmethods : d'.methods.map Method.place =
      d.methods.map Method.place ++ Mark.collect Mark.stored? marks new)
    (htallied : d'.Tallied) : Accounted (marks ++ new) d' := by
  refine ⟨hsteps.wellFormed h.wellFormed, hsteps.filled h.wellFormed h.filled,
    fun kind name hk => ?_, ?_, ?_, htallied⟩
  · obtain ⟨read, henters⟩ := haccounts
    obtain ⟨held, hgrows⟩ := henters.grows
    rw [hgrows.place?_eq kind name hk, h.place?_eq kind name hk, Mark.sites_append,
      Site.first?_append]
  · rw [hrefusals, h.refusals_eq, Mark.collect_append, List.nil_append]
  · rw [hmethods, h.methods_eq, Mark.collect_append, List.nil_append]

/-- A change that enters no marker line. -/
theorem Accounted.mute (h : Accounted marks d) (hsteps : Steps file d d')
    (haccounts : Accounts [] names d d') (hmutes : Mutes d d')
    (hnames : d'.table.declaredNames = d.table.declaredNames) : Accounted marks d' := by
  have hmethods : d'.methods.map Method.place = d.methods.map Method.place ++ [] := by
    rw [hmutes.methods_eq, List.append_nil]
  have hall : Accounted (marks ++ []) d' :=
    h.extend hsteps haccounts (hmutes.refusals_eq.trans (List.append_nil _).symm) hmethods
      (h.tallied.of_eq hmutes.conflicts_eq hnames)
  rw [List.append_nil] at hall
  exact hall

/-- A declaration of one line or one block. -/
theorem Accounted.enter (h : Accounted marks d) (x : Declaration) {marker : Marker}
    (hx : x.dispatched = [(line, marker)])
    (hrefusals : (d.enter v file x).refusals =
      d.refusals ++ (Mark.refusal? marks ⟨file, line, marker⟩).toList)
    (hmethods : (d.enter v file x).methods.map Method.place =
      d.methods.map Method.place ++ (Mark.stored? marks ⟨file, line, marker⟩).toList)
    (htallied : (d.enter v file x).Tallied) :
    Accounted (marks ++ [⟨file, line, marker⟩]) (d.enter v file x) := by
  have haccounts := accounts_enter v file h.wellFormed x
  rw [hx] at haccounts
  refine h.extend (steps_enter v file h.wellFormed x) haccounts ?_ ?_ htallied
  · rw [hrefusals]
    exact congrArg _ (List.append_nil _).symm
  · rw [hmethods]
    exact congrArg _ (List.append_nil _).symm

/-- A declaration that is not refused and stores no method. -/
theorem Accounted.enter_of_mutes (h : Accounted marks d) (x : Declaration) (kind : SymbolKind)
    (hk : kind ≠ .unknown) {marker : Marker} {lastLine : Nat} (hx : x.dispatched = [(line, marker)])
    (hspan : x.span? file = some ⟨kind, name, file, line, lastLine⟩) (hlink : x.link? = none)
    (hrefusal : Mark.refusal? marks ⟨file, line, marker⟩ = none)
    (hstored : Mark.stored? marks ⟨file, line, marker⟩ = none)
    (hmutes : Mutes (d.declare kind name file line).1 (d.enter v file x)) :
    Accounted (marks ++ [⟨file, line, marker⟩]) (d.enter v file x) := by
  obtain ⟨-, hrefusals⟩ := reports_declare d hk name file line
  refine h.enter x hx ?_ ?_
    (h.tallied.entered h.wellFormed (entered_enter v file h.wellFormed x) hspan hlink hmutes)
  · rw [hrefusal, hmutes.refusals_eq, hrefusals]
    exact (List.append_nil _).symm
  · rw [hstored, hmutes.methods_eq]
    exact (List.append_nil _).symm

/-- **A method is stored or refused**, by the marker lines in front of it. -/
theorem Accounted.enterMethod (h : Accounted marks d) (v : Vocabulary) (file : Nat)
    (m : MethodLine) :
    Accounted (marks ++ [⟨file, m.line, m.dispatched.2⟩]) (d.enterMethod v file m) := by
  have hany := h.any_declares .classKind nofun m.owner
  have hfills := fills_enterMethodInto v file h.wellFormed m (d.classNamed? m.owner)
  have hnames := hfills.declaredNames_eq
  cases hfind : d.table.find? m.owner .classKind with
  | none =>
    rw [hfind] at hany
    have hrefused : d.enterMethod v file m =
        d.report (.unknownOwner m.owner m.separator m.name) file m.line :=
      enterMethod_of_find?_eq_none hfind
    obtain ⟨hrefusals, hconflicts⟩ := reports_refusal d
      (rfl : (Issue.unknownOwner m.owner m.separator m.name).isRefusal) file m.line
    rw [← hrefused] at hrefusals hconflicts
    refine h.enter (v := v) (.methodDecl m) rfl ?_ ?_ (h.tallied.of_eq hconflicts hnames)
    · simp only [Draft.enter, hrefusals, Mark.refusal?, MethodLine.dispatched, hany]
      rfl
    · simp only [Draft.enter, hrefused, Mark.stored?, MethodLine.dispatched, hany]
      exact (List.append_nil _).symm
  | some s =>
    rw [hfind] at hany
    obtain ⟨hrefusals, hconflicts, method, hstores⟩ :=
      stores_enterMethod v file h.wellFormed hfind
    refine h.enter (v := v) (.methodDecl m) rfl ?_ ?_ (h.tallied.of_eq hconflicts hnames)
    · simp only [Draft.enter, hrefusals, Mark.refusal?, MethodLine.dispatched, hany]
      exact (List.append_nil _).symm
    · simp only [Draft.enter, hstores.methods_eq, Mark.stored?, MethodLine.dispatched, hany,
        List.map_append]
      simp [Method.place, Mark.place, hstores.place_eq]

/-- **A function is declared or refused**, by the marker lines in front of it. -/
theorem Accounted.enterFunction (h : Accounted marks d) (v : Vocabulary) (file : Nat) (name : Text)
    (f : FunctionLine) :
    Accounted (marks ++ [⟨file, f.line, .function name f.arguments⟩])
      (d.enterFunction v file name f) := by
  have hplace := h.find?_map .functionKind nofun name
  cases hfind : d.table.find? name .functionKind with
  | none =>
    -- the first line of this function, which is entered like any other declaration
    rw [hfind, Option.map_none, eq_comm, Option.map_eq_none_iff] at hplace
    refine h.enter_of_mutes (.functionDecl name f) .functionKind nofun rfl rfl rfl ?_ rfl
      (mutes_enterFunction v file h.wellFormed hfind f)
    simp only [Mark.refusal?, hplace, Option.map_none]
  | some s =>
    rw [hfind, Option.map_some, eq_comm, Option.map_eq_some_iff] at hplace
    obtain ⟨first, hfirst, hs⟩ := hplace
    obtain ⟨hfile, hline⟩ := Prod.mk.inj hs
    -- a function that is found has its routine, and so the whole line is refused
    have hrefused := enterFunction_of_find?_eq_some v file h.wellFormed h.filled hfind f
    obtain ⟨hrefusals, hconflicts⟩ := reports_refusal d
      (rfl : (Issue.duplicateFunction name s.file s.firstLine).isRefusal) file f.line
    have hnames : (d.enterFunction v file name f).table.declaredNames = d.table.declaredNames := by
      rw [hrefused]
      rfl
    rw [← hrefused] at hrefusals hconflicts
    refine h.enter (v := v) (.functionDecl name f) rfl ?_ ?_ (h.tallied.of_eq hconflicts hnames)
    · simp only [Draft.enter, hrefusals, Mark.refusal?, hfirst, Option.map_some, hfile, hline]
      rfl
    · simp only [Draft.enter, hrefused]
      exact (List.append_nil _).symm

/-- A class is declared. -/
theorem Accounted.declareClass (h : Accounted marks d) (file line : Nat) (name : Text)
    (parent : Option Text) :
    Accounted (marks ++ [⟨file, line, .classDef name parent⟩])
      (d.declare .classKind name file line).1 := by
  have hk : SymbolKind.classKind ≠ .unknown := by decide
  obtain ⟨hsteps, -, -⟩ := steps_declare h.wellFormed .classKind hk nofun name file line
  obtain ⟨hdeclare, -⟩ := enters_declare h.wellFormed .classKind hk name file line
  obtain ⟨-, hrefusals⟩ := reports_declare d hk name file line
  exact h.extend hsteps hdeclare.accounts (hrefusals.trans (List.append_nil _).symm)
    (List.append_nil _).symm (h.tallied.declare h.wellFormed hk name file line)

theorem Accounted.linkParent (h : Accounted marks d) (id parent : Nat) (name : Text)
    (file line : Nat) : Accounted marks (d.linkParent id parent name file line) := by
  refine h.mute (steps_linkParent d id parent name file line)
    (quiet_linkParent h.wellFormed id parent name file line).accounts
    (mutes_linkParent d id parent name file line) ?_
  unfold Draft.linkParent
  split
  · rfl
  · exact (SymbolTable.declaredNames_modify (Symbol.spares_addChild id).toKeeps).trans
      (SymbolTable.declaredNames_modify (Symbol.spares_setParent parent).toKeeps)

/-- A class is opened. -/
theorem Accounted.openClass (h : Accounted marks d) (file line : Nat) (name : Text)
    (parent : Option Text) :
    Accounted (marks ++ [⟨file, line, .classDef name parent⟩])
      (d.openClass file line name parent).1 := by
  cases parent with
  | none => exact h.declareClass file line name none
  | some parent =>
    have hread : Collects file 0 [] d (d.resolve parent file line).1 :=
      (Collects.refl d).resolve parent line
    have hgrows : Enters [] {parent} ∅ d (d.resolve parent file line).1 :=
      .of_grows (h.wellFormed.grows_resolve parent file line) rfl rfl rfl
    -- the parent is used first, which declares nothing
    have hused : Accounted marks (d.resolve parent file line).1 :=
      h.mute hread.steps hgrows.accounts (.of_eq rfl rfl)
        (hread.fills h.wellFormed).declaredNames_eq
    exact (hused.declareClass file line name (some parent)).linkParent _ _ name file line

/-! ### Parts -/

theorem steps_enterPart (v : Vocabulary) (file : Nat) (h : d.table.WellFormed) (part : Part) :
    Steps file d (d.enterPart v file part) := by
  cases part with
  | opening line name parent => exact (steps_openClass h file line name parent).1
  | field owner f =>
    exact changeClass_cases (P := Steps file d) (d.enterField v file · owner f) .refl
      fun s hs hk => steps_enterField v file owner h ⟨s, hs, rfl, hk⟩ f
  | method m => exact steps_enterMethod v file d m
  | closing line lastLine owner =>
    exact changeClass_cases (P := Steps file d) (d.setLastLine · file line lastLine) .refl
      fun s _ _ => .single (.lastLine s.id line lastLine)
  | enumeration line lastLine name values ending =>
    exact steps_enterEnum file h line lastLine name values ending
  | aliasLine line name target => exact steps_enterAliasLine v file h line name target
  | aliasBlock line lastLine name options =>
    exact steps_enterAliasBlock v file h line lastLine name options
  | function name f => exact steps_enterFunction v file h name f

/-- **Every part accounts for its marker line.** -/
theorem Accounted.enterPart (h : Accounted marks d) (v : Vocabulary) (file : Nat) (part : Part) :
    Accounted (marks ++ (part.mark? file).toList) (d.enterPart v file part) := by
  cases part with
  | opening line name parent => exact h.openClass file line name parent
  | field owner f =>
    -- fields and the ends of blocks have no marker line of their own
    show Accounted (marks ++ []) _
    rw [List.append_nil]
    refine changeClass_cases (d.enterField v file · owner f) h fun s hs hk => ?_
    exact h.mute (steps_enterField v file owner h.wellFormed ⟨s, hs, rfl, hk⟩ f)
      (accounts_enterField v file s.id owner h.wellFormed f)
      (mutes_enterField v file s.id owner d f)
      (fills_enterField v file s.id owner h.wellFormed f).declaredNames_eq
  | method m => exact h.enterMethod v file m
  | closing line lastLine owner =>
    show Accounted (marks ++ []) _
    rw [List.append_nil]
    refine changeClass_cases (d.setLastLine · file line lastLine) h fun s _ _ => ?_
    exact h.mute (.single (.lastLine s.id line lastLine))
      (quiet_setLastLine h.wellFormed s.id file line lastLine).accounts (.of_eq rfl rfl)
      (SymbolTable.declaredNames_modify (Symbol.spares_setLastLine ..).toKeeps)
  | enumeration line lastLine name values ending =>
    exact h.enter_of_mutes (v := v) (.enumDecl line lastLine name values ending) .enumKind nofun rfl
      rfl rfl rfl rfl (mutes_enterEnum file d line lastLine name values ending)
  | aliasLine line name target =>
    exact h.enter_of_mutes (.aliasLine line name target) .aliasKind nofun rfl rfl rfl rfl rfl
      (mutes_enterAliasLine v file d line name target)
  | aliasBlock line lastLine name options =>
    exact h.enter_of_mutes (.aliasBlock line lastLine name options) .aliasKind nofun rfl rfl rfl rfl
      rfl (mutes_enterAliasBlock v file d line lastLine name options)
  | function name f => exact h.enterFunction v file name f

/-- **Parts account for their marker lines**, in order. -/
theorem Accounted.enterParts (h : Accounted marks d) (v : Vocabulary)
    (parts : List (Nat × Part)) :
    Accounted (marks ++ Mark.ofParts parts) (d.enterParts v parts) := by
  induction parts generalizing marks d with
  | nil =>
    show Accounted (marks ++ []) d
    rw [List.append_nil]
    exact h
  | cons p parts ih =>
    have hall := ih (h.enterPart v p.1 p.2)
    have hmarks : Mark.ofParts (p :: parts) = (p.2.mark? p.1).toList ++ Mark.ofParts parts := by
      unfold Mark.ofParts
      rw [List.filterMap_cons]
      cases p.2.mark? p.1 <;> rfl
    rw [hmarks, ← List.append_assoc]
    exact hall

theorem extends_enterParts (v : Vocabulary) (h : d.table.WellFormed) (parts : List (Nat × Part)) :
    Extends Set.univ d (d.enterParts v parts) := by
  induction parts generalizing d with
  | nil => exact .refl h
  | cons p parts ih =>
    have hone := (steps_enterPart v p.1 h p.2).extends h (Set.mem_univ p.1)
    exact hone.trans (ih hone.wellFormed)

end Draft

end LuaAtlas
