import LuaAtlas.Proofs.Symbol.Growth

/-!
# What symbols hold

Whatever belongs to a symbol is an `Entry`: a property or a method of a class, a value of an
enumeration, or what was read of a global function.  `SymbolTable.held` lists what the symbols of a
table hold, each thing with the number of its holder: entries or edges, by the `part` of a symbol
that is looked at.  A change of one symbol adds to the list what it adds to the symbol
(`WellFormed.held_modify_append`).

The making and the declaration of symbols, and the links between them, leave both parts alone.
`Symbol.Steady` names what such a part has to satisfy, so that this is said once
(`held_resolve`, `WellFormed.held_declare`).  The entries depend on the body of a symbol alone
(`Symbol.Content`), so new edges do not touch them either.

Edges are added in lists (`SymbolTable.addEdges`): afterwards symbols have the listed edges besides
those that they had before (`WellFormed.mem_held_addEdges`), and as many edges are new as are
counted (`WellFormed.length_held_addEdges`).
-/

namespace LuaAtlas

/-! ### Parts of symbols -/

/-- A part of symbols that new symbols lack and that declarations and links leave alone. -/
structure Symbol.Steady {β : Type} (part : Symbol → List β) : Prop where
  newSymbol : ∀ t kind name file line, part (SymbolTable.newSymbol t kind name file line) = []
  promoted : ∀ s kind file line, s.kind = .unknown →
    part (SymbolTable.promoted s kind file line) = part s
  setParent : ∀ (s : Symbol) (parent : Option Nat), part { s with parent } = part s
  addChild : ∀ (s : Symbol) (child : Nat), part (s.addChild child) = part s
  setLastLine : ∀ (s : Symbol) (lastLine : Nat), part { s with lastLine } = part s

/-- A part of symbols that depends on their bodies alone and that new bodies lack. -/
structure Symbol.Content {β : Type} (part : Symbol → List β) : Prop where
  congr : ∀ {s u : Symbol}, s.body = u.body → part s = part u
  empty : ∀ {s : Symbol} {kind : SymbolKind}, s.body = .empty kind → part s = []

namespace Symbol

variable {β : Type} {part : Symbol → List β}

theorem Content.steady (h : Content part) : Steady part := by
  refine ⟨fun t kind name file line => h.empty rfl, fun s kind file line hk => ?_,
    fun s parent => h.congr rfl, fun s child => h.congr ?_, fun s lastLine => h.congr rfl⟩
  · have hbody : s.body = .empty .unknown := by
      unfold Symbol.kind at hk
      cases hb : s.body with
      | unknown => rfl
      | _ => rw [hb] at hk; cases hk
    rw [h.empty hbody]
    exact h.empty rfl
  · unfold addChild
    split <;> rfl

theorem steady_references : Steady Symbol.references := by
  refine ⟨fun _ _ _ _ _ => rfl, fun _ _ _ _ _ => rfl, fun _ _ => rfl, fun s child => ?_,
    fun _ _ => rfl⟩
  unfold addChild
  split <;> rfl

end Symbol

/-! ### Edges that types give rise to -/

namespace Edge

/-- The symbols that a type mentions, each with the edge that it gets. -/
def ofType (kind : EdgeKind) (referencer : Nat) (signature : Signature) : List (Nat × Edge) :=
  (signature.refs.map (·.id)).eraseDups.map (·, ⟨referencer, kind⟩)

/-- As `ofType`, for the parameters and the return values of a function. -/
def ofRoutine (returnKind : EdgeKind) (referencer : Nat) (r : Routine) : List (Nat × Edge) :=
  (r.params.map (·.signature)).flatMap (ofType .parameter referencer) ++
    r.allReturns.flatMap (ofType returnKind referencer)

theorem mem_ofType {kind : EdgeKind} {referencer : Nat} {signature : Signature} {x : Nat × Edge} :
    x ∈ ofType kind referencer signature ↔
      x.1 ∈ signature.refs.map (·.id) ∧ x.2 = ⟨referencer, kind⟩ := by
  unfold ofType
  rw [List.mem_map]
  constructor
  · rintro ⟨id, hid, rfl⟩
    exact ⟨List.mem_eraseDups.1 hid, rfl⟩
  · rintro ⟨hid, hedge⟩
    exact ⟨x.1, List.mem_eraseDups.2 hid, Prod.ext rfl hedge.symm⟩

end Edge

/-! ### Entries -/

/-- What belongs to a symbol. -/
inductive Entry where
  | property (property : Member)
  | method (method : Method)
  | value (value : Member)
  | routine (routine : Routine)

namespace Entry

/-- The property that an entry is. -/
def property? : Entry → Option Member
  | property p => some p
  | _ => none

/-- The method that an entry is. -/
def method? : Entry → Option Method
  | method m => some m
  | _ => none

/-- The value that an entry is. -/
def value? : Entry → Option Member
  | value e => some e
  | _ => none

/-- The parameters of a method or a global function. -/
def params : Entry → List Member
  | method m => m.routine.params
  | routine r => r.params
  | _ => []

/-- The numbers that were given out for an entry. -/
def ids : Entry → List Nat
  | property p => [p.id]
  | method m => m.id :: m.routine.params.map (·.id)
  | value e => [e.id]
  | routine r => r.params.map (·.id)

/-- The edges that an entry gives rise to if the symbol with the given number holds it. -/
def edges (holder : Nat) : Entry → List (Nat × Edge)
  | property p => Edge.ofType .property p.id p.signature
  | method m => Edge.ofRoutine .method m.id m.routine
  | value _ => []
  | routine r => Edge.ofRoutine .globalFunction holder r

/-- The kind of the symbols that hold such entries. -/
def holderKind : Entry → SymbolKind
  | property _ => .classKind
  | method _ => .classKind
  | value _ => .enumKind
  | routine _ => .functionKind

/-- The parents in an entry are what they should be if the symbol with the given number holds it. -/
def OwnedBy (holder : Nat) : Entry → Prop
  | property p => p.parent = holder
  | method m => m.parent = holder ∧ ∀ p ∈ m.routine.params, p.parent = m.id
  | value e => e.parent = holder
  | routine r => ∀ p ∈ r.params, p.parent = holder

end Entry

namespace Symbol

variable {s : Symbol}

/-- What belongs to a symbol. -/
def entries (s : Symbol) : List Entry :=
  match s.body with
  | .classBody properties methods => properties.map .property ++ methods.map .method
  | .enumBody values => values.map .value
  | .functionBody routine => routine.toList.map .routine
  | _ => []

theorem content_entries : Content Symbol.entries where
  congr he := by rw [entries, entries, he]
  empty {s kind} he := by
    rw [entries, he]
    cases kind <;> rfl

theorem kind_of_mem_entries {e : Entry} (h : e ∈ s.entries) : s.kind = e.holderKind := by
  unfold entries at h
  unfold kind
  cases hbody : s.body with
  | classBody properties methods =>
    simp only [hbody, List.mem_append, List.mem_map] at h
    rcases h with ⟨p, -, rfl⟩ | ⟨m, -, rfl⟩ <;> rfl
  | enumBody values =>
    simp only [hbody, List.mem_map] at h
    obtain ⟨value, -, rfl⟩ := h
    rfl
  | functionBody routine =>
    simp only [hbody, List.mem_map] at h
    obtain ⟨r, -, rfl⟩ := h
    rfl
  | _ =>
    simp only [hbody] at h
    cases h

theorem property_mem_entries {p : Member} : .property p ∈ s.entries ↔ p ∈ s.properties := by
  unfold entries properties
  cases s.body <;> simp

theorem method_mem_entries {m : Method} : .method m ∈ s.entries ↔ m ∈ s.methods := by
  unfold entries methods
  cases s.body <;> simp

theorem value_mem_entries {e : Member} : .value e ∈ s.entries ↔ e ∈ s.values := by
  unfold entries values
  cases s.body <;> simp

theorem routine_mem_entries {r : Routine} : .routine r ∈ s.entries ↔ s.routine? = some r := by
  unfold entries routine?
  cases s.body <;> simp

theorem filterMap_property?_entries (s : Symbol) :
    s.entries.filterMap Entry.property? = s.properties := by
  unfold entries properties
  cases s.body <;> simp [Entry.property?, Function.comp_def]

theorem filterMap_method?_entries (s : Symbol) :
    s.entries.filterMap Entry.method? = s.methods := by
  unfold entries methods
  cases s.body <;> simp [Entry.method?, Function.comp_def]

theorem filterMap_value?_entries (s : Symbol) :
    s.entries.filterMap Entry.value? = s.values := by
  unfold entries values
  cases s.body <;> simp [Entry.value?, Function.comp_def]

theorem flatMap_params_entries (s : Symbol) :
    s.entries.flatMap Entry.params =
      s.methods.flatMap (·.routine.params) ++ s.routine?.toList.flatMap (·.params) := by
  unfold entries methods routine?
  cases s.body <;> simp [Entry.params, List.flatMap_map]

/-! What is added to a body is an entry of its symbol. -/

theorem entries_addProperty (h : s.kind = .classKind) (p : Member) :
    (s.mapBody (·.addProperty p)).entries.Perm (s.entries ++ [.property p]) := by
  cases s with | mk _ _ _ _ _ _ _ _ body =>
  cases body with
  | classBody properties methods =>
    show ((properties ++ [p]).map Entry.property ++ methods.map Entry.method).Perm
      (properties.map Entry.property ++ methods.map Entry.method ++ [.property p])
    rw [List.map_append, List.append_assoc, List.append_assoc]
    exact List.perm_append_comm.append_left _
  | _ => cases h

theorem entries_addMethod (h : s.kind = .classKind) (m : Method) :
    (s.mapBody (·.addMethod m)).entries = s.entries ++ [.method m] := by
  cases s with | mk _ _ _ _ _ _ _ _ body =>
  cases body with
  | classBody properties methods => simp [entries, mapBody, Body.addMethod]
  | _ => cases h

theorem entries_addValue (h : s.kind = .enumKind) (value : Member) :
    (s.mapBody (·.addValue value)).entries = s.entries ++ [.value value] := by
  cases s with | mk _ _ _ _ _ _ _ _ body =>
  cases body with
  | enumBody values => simp [entries, mapBody, Body.addValue]
  | _ => cases h

theorem entries_setRoutine (h : s.kind = .functionKind) (hnone : s.routine? = none) (r : Routine) :
    (s.mapBody (·.setRoutine r)).entries = s.entries ++ [.routine r] := by
  cases s with | mk _ _ _ _ _ _ _ _ body =>
  cases body with
  | functionBody routine =>
    cases hnone
    rfl
  | _ => cases h

/-- The options of an alias are no entries. -/
theorem entries_addOption (option : AliasOption) (s : Symbol) :
    (s.mapBody (·.addOption option)).entries = s.entries := by
  cases s with | mk _ _ _ _ _ _ _ _ body =>
  cases body <;> rfl

end Symbol

namespace SymbolTable

variable {β γ : Type} {part : Symbol → List β} {t : SymbolTable} {s : Symbol} {f : Symbol → Symbol}
  {kind : SymbolKind} {name : Text} {file line id : Nat}

/-- **What symbols hold**, each thing with the number of its holder. -/
def held (part : Symbol → List β) (t : SymbolTable) : List (Nat × β) :=
  t.symbols.flatMap fun s => (part s).map (s.id, ·)

theorem mem_held {x : Nat × β} : x ∈ t.held part ↔ ∃ s ∈ t.symbols, s.id = x.1 ∧ x.2 ∈ part s := by
  unfold held
  rw [List.mem_flatMap]
  constructor
  · rintro ⟨s, hs, hx⟩
    obtain ⟨b, hb, rfl⟩ := List.mem_map.1 hx
    exact ⟨s, hs, rfl, hb⟩
  · rintro ⟨s, hs, hid, hb⟩
    refine ⟨s, hs, List.mem_map.2 ⟨x.2, hb, ?_⟩⟩
    rw [hid]

/-- A symbol holds what is listed under its number. -/
theorem WellFormed.mem_held_iff (h : t.WellFormed) (hs : s ∈ t.symbols) {b : β} :
    (s.id, b) ∈ t.held part ↔ b ∈ part s := by
  rw [mem_held]
  constructor
  · rintro ⟨u, hu, hid, hb⟩
    rw [h.eq_of_id_eq hu hs hid] at hb
    exact hb
  · intro hb
    exact ⟨s, hs, rfl, hb⟩

theorem map_snd_held (t : SymbolTable) (part : Symbol → List β) :
    (t.held part).map Prod.snd = t.symbols.flatMap part := by
  unfold held
  rw [List.map_flatMap]
  refine List.flatMap_congr fun s _ => ?_
  rw [List.map_map]
  exact List.map_id _

theorem filterMap_held (t : SymbolTable) (part : Symbol → List β) (g : β → Option γ) :
    (t.held part).filterMap (fun x => g x.2) = t.symbols.flatMap fun s => (part s).filterMap g := by
  unfold held
  rw [List.filterMap_flatMap]
  refine List.flatMap_congr fun s _ => ?_
  rw [List.filterMap_map]
  rfl

theorem flatMap_held (t : SymbolTable) (part : Symbol → List β) (g : β → List γ) :
    (t.held part).flatMap (fun x => g x.2) = t.symbols.flatMap fun s => (part s).flatMap g := by
  unfold held
  rw [List.flatMap_assoc]
  refine List.flatMap_congr fun s _ => ?_
  rw [List.flatMap_map]

/-! ### Changes of single symbols -/

/-- A change that leaves a part alone. -/
theorem held_modify (hid : ∀ s, (f s).id = s.id)
    (hpart : ∀ s ∈ t.symbols, s.id = id → part (f s) = part s) :
    (t.modify id f).held part = t.held part := by
  unfold held SymbolTable.modify
  rw [List.flatMap_map]
  refine List.flatMap_congr fun s hs => ?_
  split
  · rename_i hs'
    rw [hid, hpart s hs (beq_iff_eq.1 hs')]
  · rfl

/-- The symbol with a number is changed in its place. -/
theorem WellFormed.symbols_modify (h : t.WellFormed) (hs : s ∈ t.symbols) (f : Symbol → Symbol) :
    ∃ before after, t.symbols = before ++ s :: after ∧
      (t.modify s.id f).symbols = before ++ f s :: after := by
  obtain ⟨before, after, hsplit⟩ := List.append_of_mem hs
  refine ⟨before, after, hsplit, ?_⟩
  have hsorted := h.sorted
  rw [hsplit, List.pairwise_append, List.pairwise_cons] at hsorted
  obtain ⟨-, ⟨hafter, -⟩, hbefore⟩ := hsorted
  -- the numbers in front are lower and those behind are higher
  have hfront : before.map (fun u => if u.id == s.id then f u else u) = before := by
    refine (List.map_congr_left fun u hu => ?_).trans (List.map_id _)
    have hlt := hbefore u hu s (List.mem_cons_self ..)
    have hne : (u.id == s.id) = false := by
      rw [beq_eq_false_iff_ne]
      omega
    simp [hne]
  have hback : after.map (fun u => if u.id == s.id then f u else u) = after := by
    refine (List.map_congr_left fun u hu => ?_).trans (List.map_id _)
    have hlt := hafter u hu
    have hne : (u.id == s.id) = false := by
      rw [beq_eq_false_iff_ne]
      omega
    simp [hne]
  show t.symbols.map (fun u => if u.id == s.id then f u else u) = before ++ f s :: after
  rw [hsplit, List.map_append, List.map_cons, hfront, hback]
  simp

/-- **A change of one symbol adds what the symbol gets.** -/
theorem WellFormed.held_modify_append (h : t.WellFormed) (hs : s ∈ t.symbols) {extra : List β}
    (hid : (f s).id = s.id) (hpart : (part (f s)).Perm (part s ++ extra)) :
    ((t.modify s.id f).held part).Perm (t.held part ++ extra.map (s.id, ·)) := by
  obtain ⟨before, after, hsymbols, hmodify⟩ := h.symbols_modify hs f
  have hpairs : ((part (f s)).map (s.id, ·)).Perm
      ((part s).map (s.id, ·) ++ extra.map (s.id, ·)) := by
    rw [← List.map_append]
    exact hpart.map _
  unfold held
  rw [hsymbols, hmodify, List.flatMap_append, List.flatMap_cons, List.flatMap_append,
    List.flatMap_cons, hid, List.append_assoc, List.append_assoc]
  refine List.Perm.append_left _ ((hpairs.append_right _).trans ?_)
  rw [List.append_assoc]
  exact List.perm_append_comm.append_left _

/-! ### Making and declaring -/

theorem held_create (hp : Symbol.Steady part) (kind : SymbolKind) (name : Text) (file line : Nat) :
    (t.create kind name file line).1.held part = t.held part := by
  unfold held
  rw [symbols_create, List.flatMap_append, List.flatMap_singleton, hp.newSymbol, List.map_nil,
    List.append_nil]

theorem held_resolve (hp : Symbol.Steady part) (name : Text) (file line : Nat) :
    (t.resolve name file line).1.held part = t.held part := by
  unfold SymbolTable.resolve
  split
  · rfl
  · exact held_create hp ..

/-- **A declaration leaves alone what symbols hold.** -/
theorem WellFormed.held_declare (h : t.WellFormed) (hp : Symbol.Steady part) (kind : SymbolKind)
    (name : Text) (file line : Nat) :
    (t.declare kind name file line).table.held part = t.held part := by
  unfold SymbolTable.declare
  split
  · rfl
  · split
    · exact held_resolve hp ..
    · split
      · rename_i s hu
        obtain ⟨hs, -, hk⟩ := mem_of_find?_eq_some hu
        refine held_modify (fun _ => rfl) fun u hu' hid => ?_
        rw [h.eq_of_id_eq hu' hs hid]
        exact hp.promoted s kind file line hk
      · exact held_create hp ..

/-! ### Edges -/

/-- Edges are added to symbols one after the other.  The second result counts the new ones. -/
def addEdges (t : SymbolTable) : List (Nat × Edge) → SymbolTable × Nat
  | [] => (t, 0)
  | x :: edges =>
    let r := t.addReference x.1 x.2
    let rest := addEdges r.1 edges
    (rest.1, (if r.2 then 1 else 0) + rest.2)

theorem addReferences_eq_addEdges (t : SymbolTable) (edge : Edge) (ids : List Nat) :
    t.addReferences edge ids = t.addEdges (ids.map (·, edge)) := by
  induction ids generalizing t with
  | nil => rfl
  | cons id ids ih =>
    rw [addReferences, List.map_cons, addEdges]
    simp only
    rw [ih]

theorem addEdges_append (t : SymbolTable) (edges later : List (Nat × Edge)) :
    t.addEdges (edges ++ later) =
      (((t.addEdges edges).1.addEdges later).1,
        (t.addEdges edges).2 + ((t.addEdges edges).1.addEdges later).2) := by
  induction edges generalizing t with
  | nil => simp [addEdges]
  | cons x edges ih =>
    rw [List.cons_append, addEdges, addEdges]
    simp only
    rw [ih, Nat.add_assoc]

theorem track_eq_addEdges (t : SymbolTable) (kind : EdgeKind) (referencer : Nat)
    (signature : Signature) :
    t.track kind referencer signature = t.addEdges (Edge.ofType kind referencer signature) :=
  addReferences_eq_addEdges ..

/-- Edges change only lists of edges: what one edge preserves, any edges preserve. -/
theorem WellFormed.addEdges_induction {P : SymbolTable → Prop} (h : t.WellFormed) (hp : P t)
    (hone : ∀ {t : SymbolTable}, t.WellFormed → P t → ∀ id edge,
      P (t.modify id (·.addReference edge))) (edges : List (Nat × Edge)) :
    P (t.addEdges edges).1 := by
  induction edges generalizing t with
  | nil => exact hp
  | cons x edges ih =>
    refine ih (h.addReference x.1 x.2) ?_
    rw [h.addReference_eq]
    exact hone h hp x.1 x.2

/-- The number belongs to a symbol. -/
def Has (t : SymbolTable) (id : Nat) : Prop := ∃ s ∈ t.symbols, s.id = id

/-- A new edge leaves every symbol its number. -/
theorem WellFormed.has_addReference (h : t.WellFormed) {i : Nat} (hi : t.Has i) (id : Nat)
    (edge : Edge) : (t.addReference id edge).1.Has i := by
  obtain ⟨s, hs, rfl⟩ := hi
  rw [h.addReference_eq]
  refine ⟨_, mem_symbols_modify.2 ⟨s, hs, rfl⟩, ?_⟩
  split
  · exact id_addReference edge s
  · rfl

theorem WellFormed.held_addEdges (h : t.WellFormed) (hp : Symbol.Content part)
    (edges : List (Nat × Edge)) : (t.addEdges edges).1.held part = t.held part := by
  refine h.addEdges_induction (P := fun u => u.held part = t.held part) rfl
    (fun {u} _ hu id edge => ?_) edges
  rw [← hu]
  exact held_modify (id_addReference edge) fun s _ _ => hp.congr (body_addReference edge s)

/-- An edge that is not counted is there already; one that is counted is new. -/
theorem WellFormed.addReference_cases (h : t.WellFormed) (hid : t.Has id) (edge : Edge) :
    t.addReference id edge = (t, false) ∧ (id, edge) ∈ t.held Symbol.references ∨
      (t.addReference id edge).2 = true ∧
        ((t.addReference id edge).1.held Symbol.references).Perm
          (t.held Symbol.references ++ [(id, edge)]) := by
  obtain ⟨s, hs, rfl⟩ := hid
  have hget : t.get? s.id = some s := h.get?_eq_some_iff.2 ⟨hs, rfl⟩
  unfold SymbolTable.addReference
  rw [hget]
  by_cases hc : s.references.contains edge = true
  · left
    have hedge : edge ∈ s.references := by simpa using hc
    simp only [hc, ↓reduceIte, true_and]
    exact (h.mem_held_iff hs).2 hedge
  · right
    simp only [hc, Bool.false_eq_true, ↓reduceIte, true_and]
    have hnew : (s.addReference edge).references = s.references ++ [edge] := by
      unfold Symbol.addReference
      simp only [hc, Bool.false_eq_true, ↓reduceIte]
    exact h.held_modify_append hs (id_addReference edge s) (.of_eq hnew)

/-- **Edges are added to their symbols**, unless they are there, and no other edge is added. -/
theorem WellFormed.mem_held_addEdges (h : t.WellFormed) {edges : List (Nat × Edge)}
    (hids : ∀ x ∈ edges, t.Has x.1) {x : Nat × Edge} :
    x ∈ (t.addEdges edges).1.held Symbol.references ↔
      x ∈ t.held Symbol.references ∨ x ∈ edges := by
  induction edges generalizing t with
  | nil => simp [addEdges]
  | cons y edges ih =>
    have hy := hids y (List.mem_cons_self ..)
    have hrest : ∀ z ∈ edges, (t.addReference y.1 y.2).1.Has z.1 := fun z hz =>
      h.has_addReference (hids z (List.mem_cons_of_mem _ hz)) y.1 y.2
    have hone : x ∈ (t.addReference y.1 y.2).1.held Symbol.references ↔
        x ∈ t.held Symbol.references ∨ x = y := by
      rcases h.addReference_cases hy y.2 with ⟨hsame, hmem⟩ | ⟨-, hperm⟩
      · rw [hsame]
        refine ⟨Or.inl, fun hx => hx.elim (fun hx => hx) ?_⟩
        rintro rfl
        exact hmem
      · rw [hperm.mem_iff, List.mem_append, List.mem_singleton]
    show x ∈ ((t.addReference y.1 y.2).1.addEdges edges).1.held Symbol.references ↔ _
    rw [ih (h.addReference y.1 y.2) hrest, hone, List.mem_cons, or_assoc]

/-- **Every new edge is counted.** -/
theorem WellFormed.length_held_addEdges (h : t.WellFormed) {edges : List (Nat × Edge)}
    (hids : ∀ x ∈ edges, t.Has x.1) :
    ((t.addEdges edges).1.held Symbol.references).length =
      (t.held Symbol.references).length + (t.addEdges edges).2 := by
  induction edges generalizing t with
  | nil => rfl
  | cons y edges ih =>
    have hy := hids y (List.mem_cons_self ..)
    have hrest : ∀ z ∈ edges, (t.addReference y.1 y.2).1.Has z.1 := fun z hz =>
      h.has_addReference (hids z (List.mem_cons_of_mem _ hz)) y.1 y.2
    have hone : ((t.addReference y.1 y.2).1.held Symbol.references).length =
        (t.held Symbol.references).length + if (t.addReference y.1 y.2).2 then 1 else 0 := by
      rcases h.addReference_cases hy y.2 with ⟨hsame, -⟩ | ⟨hnew, hperm⟩
      · rw [hsame]
        rfl
      · rw [hperm.length_eq, hnew, List.length_append]
        rfl
    unfold addEdges
    simp only
    rw [ih (h.addReference y.1 y.2) hrest, hone, Nat.add_assoc]

end SymbolTable

end LuaAtlas
