import LuaAtlas.Proofs.Draft.Reporting
import Mathlib.Data.Finset.Card

/-!
# Conflicts between declarations

A name may be declared under several kinds, and then it has as many symbols.  A conflict is reported
exactly where a name that was declared before gets another symbol
(`SymbolTable.WellFormed.declaredNames_declare`).  The promotion of an unknown symbol needs no such
check, since an unknown symbol is the only one of its name.

So conflicts make up for the names that are declared more than once (`Draft.Tallied`): with every
declaration, either the number of conflicts grows or that of different names.
-/

namespace LuaAtlas

/-- The name of a declared symbol. -/
def Symbol.declaredNames (s : Symbol) : List Text := if s.kind = .unknown then [] else [s.name]

theorem Symbol.declaredNames_congr {s u : Symbol} (hkind : s.kind = u.kind)
    (hname : s.name = u.name) : s.declaredNames = u.declaredNames := by
  unfold declaredNames
  rw [hkind, hname]

theorem Symbol.declaredNames_of_declared {s : Symbol} (h : s.kind ≠ .unknown) :
    s.declaredNames = [s.name] :=
  ite_cond_eq_false _ _ (eq_false h)

theorem Symbol.outer_declaredNames : Outer Symbol.declaredNames where
  unknown _ _ _ _ := ite_cond_eq_true _ _ (eq_true SymbolTable.kind_newSymbol)
  mapBody s _ hg := declaredNames_congr (hg s.body) rfl
  addReference s edge := declaredNames_congr (SymbolTable.kind_addReference edge s)
    (SymbolTable.name_addReference edge s)

namespace SymbolTable

variable {t : SymbolTable} {kind : SymbolKind} {name : Text}

/-- The names of the declared symbols, each as often as it is declared. -/
def declaredNames (t : SymbolTable) : List Text := (t.held Symbol.declaredNames).map (·.2)

theorem declaredNames_eq (t : SymbolTable) :
    t.declaredNames = (t.symbols.filter (·.kind != .unknown)).map (·.name) := by
  unfold declaredNames
  rw [map_snd_held]
  induction t.symbols with
  | nil => rfl
  | cons s symbols ih =>
    rw [List.flatMap_cons, ih]
    by_cases hk : s.kind = .unknown <;> simp [Symbol.declaredNames, hk]

theorem mem_declaredNames :
    name ∈ t.declaredNames ↔ ∃ s ∈ t.symbols, s.kind ≠ .unknown ∧ s.name = name := by
  simp [declaredNames_eq, and_assoc]

theorem declaredNames_modify {id : Nat} {f : Symbol → Symbol} (hf : Symbol.Keeps f) :
    (t.modify id f).declaredNames = t.declaredNames := by
  unfold declaredNames
  rw [held_modify hf.id fun s _ _ => Symbol.declaredNames_congr (hf.kind s) (hf.name s)]

/-- A name that gets another symbol is in conflict exactly if it was declared before. -/
theorem isSome_conflict?_iff (hk : kind ≠ .unknown) (hfind : t.find? name kind = none) :
    (t.conflict? kind name).isSome ↔ name ∈ t.declaredNames := by
  unfold conflict?
  rw [ite_cond_eq_false _ _ (eq_false hk), Option.isSome_map, List.find?_isSome, mem_declaredNames]
  constructor
  · rintro ⟨s, hs, hkey⟩
    obtain ⟨hs, hn⟩ := List.mem_filter.1 hs
    simp only [Bool.and_eq_true, bne_iff_ne] at hkey
    exact ⟨s, hs, hkey.1, beq_iff_eq.1 hn⟩
  · rintro ⟨s, hs, hsk, hn⟩
    refine ⟨s, List.mem_filter.2 ⟨hs, beq_iff_eq.2 hn⟩, ?_⟩
    have hother := find?_eq_none_iff.1 hfind s hs hn
    simp [hsk, hother]

/-- **A declaration declares its name once more**, unless its symbol is there, and is in conflict
exactly if the name was declared. -/
theorem WellFormed.declaredNames_declare (h : t.WellFormed) (hk : kind ≠ .unknown) (name : Text)
    (file line : Nat) :
    ((t.declare kind name file line).table.declaredNames = t.declaredNames ∧
        (t.declare kind name file line).conflict = none) ∨
      (t.declare kind name file line).table.declaredNames.Perm (t.declaredNames ++ [name]) ∧
        ((t.declare kind name file line).conflict.isSome ↔ name ∈ t.declaredNames) := by
  rcases t.declare_cases hk name file line with ⟨s, -, he⟩ | ⟨s, -, hunknown, he⟩ |
    ⟨hfind, -, he⟩
  · rw [he]
    exact Or.inl ⟨rfl, rfl⟩
  · obtain ⟨hs, hn, hsk⟩ := mem_of_find?_eq_some hunknown
    rw [he]
    right
    constructor
    · have hadds : (promoted s kind file line).declaredNames = s.declaredNames ++ [name] := by
        have hnone : s.declaredNames = [] := ite_cond_eq_true _ _ (eq_true hsk)
        have hkind : (promoted s kind file line).kind ≠ .unknown := by
          rw [kind_promoted]
          exact hk
        rw [hnone, Symbol.declaredNames_of_declared hkind]
        exact congrArg (fun n => [n]) hn
      have hperm := (h.held_modify_append hs (f := (promoted · kind file line)) rfl
        (.of_eq hadds)).map (·.2)
      rw [List.map_append] at hperm
      exact hperm
    · -- an unknown symbol is the only one of its name
      refine ⟨nofun, fun hmem => ?_⟩
      obtain ⟨u, hu, huk, hun⟩ := mem_declaredNames.1 hmem
      rw [← h.alone s hs u hu (hn.trans hun.symm) hsk] at huk
      exact absurd hsk huk
  · rw [he]
    right
    refine ⟨.of_eq ?_, isSome_conflict?_iff hk hfind⟩
    have hkind : (t.newSymbol kind name file line).kind ≠ .unknown := by
      rw [kind_newSymbol]
      exact hk
    unfold declaredNames
    rw [map_snd_held, map_snd_held, symbols_create, List.flatMap_append, List.flatMap_singleton,
      Symbol.declaredNames_of_declared hkind]
    rfl

end SymbolTable

namespace Draft

variable {d d' : Draft} {kind : SymbolKind}

/-- **Conflicts make up for the names that are declared more than once.** -/
def Tallied (d : Draft) : Prop :=
  d.conflicts.length + d.table.declaredNames.toFinset.card = d.table.declaredNames.length

theorem Tallied.of_eq (h : Tallied d) (hconflicts : d'.conflicts = d.conflicts)
    (hnames : d'.table.declaredNames = d.table.declaredNames) : Tallied d' := by
  unfold Tallied
  rw [hconflicts, hnames]
  exact h

theorem Fills.declaredNames_eq (h : Fills d d') :
    d'.table.declaredNames = d.table.declaredNames := by
  unfold SymbolTable.declaredNames
  rw [h.held_eq Symbol.outer_declaredNames]

/-- A declaration reports the conflict that it makes and no refusal. -/
theorem reports_declare (d : Draft) (hk : kind ≠ .unknown) (name : Text) (file line : Nat) :
    (d.declare kind name file line).1.conflicts = d.conflicts ++
        (d.table.declare kind name file line).conflict.toList.map (⟨·, file, line⟩) ∧
      (d.declare kind name file line).1.refusals = d.refusals := by
  have hreported : (d.declare kind name file line).1.diagnostics = d.diagnostics ++
      (d.table.declare kind name file line).conflict.toList.map (⟨·, file, line⟩) := rfl
  have hissue (issue : Issue) (h : issue ∈ (d.table.declare kind name file line).conflict.toList) :
      issue.isConflict = true ∧ issue.isRefusal = false := by
    rcases d.table.declare_cases hk name file line with ⟨s, -, he⟩ | ⟨s, -, -, he⟩ | ⟨-, -, he⟩
    · rw [he] at h
      cases h
    · rw [he] at h
      cases h
    · rw [he, Option.mem_toList] at h
      simp only [SymbolTable.conflict?, hk, ↓reduceIte] at h
      obtain ⟨s, -, rfl⟩ := Option.map_eq_some_iff.1 h
      exact ⟨rfl, rfl⟩
  constructor
  · unfold conflicts
    rw [hreported, List.filter_append]
    refine congrArg _ (List.filter_eq_self.2 fun x hx => ?_)
    obtain ⟨issue, hmem, rfl⟩ := List.mem_map.1 hx
    exact (hissue issue hmem).1
  · unfold refusals
    rw [hreported, List.filter_append, List.append_right_eq_self, List.filter_eq_nil_iff]
    intro x hx
    obtain ⟨issue, hmem, rfl⟩ := List.mem_map.1 hx
    exact Bool.eq_false_iff.1 (hissue issue hmem).2

theorem Tallied.declare (h : Tallied d) (hw : d.table.WellFormed) (hk : kind ≠ .unknown)
    (name : Text) (file line : Nat) : Tallied (d.declare kind name file line).1 := by
  obtain ⟨hconflicts, -⟩ := reports_declare d hk name file line
  rcases hw.declaredNames_declare hk name file line with ⟨hnames, hnone⟩ | ⟨hperm, hsome⟩
  · rw [hnone] at hconflicts
    exact h.of_eq (hconflicts.trans (List.append_nil _)) hnames
  · unfold Tallied at h ⊢
    have hnames : (d.declare kind name file line).1.table.declaredNames.Perm
        (d.table.declaredNames ++ [name]) := hperm
    rw [hnames.length_eq, List.toFinset_eq_of_perm _ _ hnames, hconflicts, List.length_append,
      List.length_append, List.length_map, ← h]
    -- a name counts once, the first time without a conflict
    by_cases hmem : name ∈ d.table.declaredNames
    · obtain ⟨issue, hissue⟩ := Option.isSome_iff_exists.1 (hsome.2 hmem)
      have hinsert : (d.table.declaredNames ++ [name]).toFinset =
          d.table.declaredNames.toFinset := by
        ext n
        simp only [List.mem_toFinset, List.mem_append, List.mem_singleton]
        exact ⟨fun hn => hn.elim id fun hn => hn ▸ hmem, Or.inl⟩
      rw [hissue, hinsert]
      simp only [Option.toList_some, List.length_singleton]
      omega
    · have hnone : (d.table.declare kind name file line).conflict = none :=
        Option.not_isSome_iff_eq_none.1 (mt hsome.1 hmem)
      have hinsert : (d.table.declaredNames ++ [name]).toFinset.card =
          d.table.declaredNames.toFinset.card + 1 := by
        have hnot : name ∉ d.table.declaredNames.toFinset := by simpa using hmem
        rw [List.toFinset_append, Finset.union_comm]
        exact Finset.card_insert_of_notMem hnot
      rw [hnone, hinsert]
      simp only [Option.toList_none, List.length_nil, List.length_singleton]
      omega

/-- The tally is kept by every declaration other than a class with a parent. -/
theorem Tallied.entered {x : Declaration} {name : Text} {file line lastLine : Nat}
    (h : Tallied d) (hw : d.table.WellFormed) (hentered : Entered file d x d')
    (hspan : x.span? file = some ⟨kind, name, file, line, lastLine⟩) (hlink : x.link? = none)
    (hmutes : Mutes (d.declare kind name file line).1 d') : Tallied d' := by
  cases hentered with
  | method _ hnone _ => rw [hnone] at hspan; cases hspan
  | line hk hfills hspan' _ =>
    rw [hspan'] at hspan
    cases hspan
    exact (h.declare hw hk _ _ _).of_eq hmutes.conflicts_eq hfills.declaredNames_eq
  | block hk hfills hspan' _ =>
    rw [hspan'] at hspan
    cases hspan
    refine (h.declare hw hk _ _ _).of_eq hmutes.conflicts_eq (.trans ?_ hfills.declaredNames_eq)
    exact SymbolTable.declaredNames_modify (Symbol.spares_setLastLine ..).toKeeps
  | child _ _ _ _ _ hlink' => rw [hlink'] at hlink; cases hlink

end Draft

end LuaAtlas
