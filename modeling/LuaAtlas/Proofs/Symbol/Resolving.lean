import LuaAtlas.Proofs.Symbol.Extension
import LuaAtlas.Proofs.TypeExpr.Nested
import Mathlib.Data.List.Range

/-!
# Using names

To use names one after the other adds an unknown symbol for each of them that has none, and that is
all: `resolveAll_eq` gives the table after it.  Names that have symbols already leave the table as
it is (`resolveAll_eq_self`), so it does not matter how often they are used.

A type is signed with the numbers that its names have; as long as these stay, so does the signed
type (`sign_read_congr`).  They stay in every later table (`PersistsIn`).
-/

namespace LuaAtlas

theorem nodup_eraseDups {α : Type} [BEq α] [LawfulBEq α] (l : List α) : l.eraseDups.Nodup := by
  induction hn : l.length using Nat.strongRecOn generalizing l with
  | _ n ih =>
  cases l with
  | nil => exact List.nodup_nil
  | cons a l =>
    have hlt : (l.filter fun b => !b == a).length < n := by
      have := List.length_filter_le (fun b => !b == a) l
      rw [List.length_cons] at hn
      omega
    rw [List.eraseDups_cons, List.nodup_cons]
    refine ⟨?_, ih _ hlt _ rfl⟩
    simp [List.mem_eraseDups]

namespace SymbolTable

variable {t t' : SymbolTable} {name : Text} {file line : Nat}

/-! ### Names without symbols -/

/-- The names that have no symbol, each once. -/
def missing (t : SymbolTable) (names : List Text) : List Text :=
  (names.filter fun name => (t.lookup? name).isNone).eraseDups

/-- Unknown symbols for names, under consecutive numbers. -/
def placeholders (file line : Nat) : Nat → List Text → List Symbol
  | _, [] => []
  | id, name :: names =>
    { id, name, file, firstLine := line, lastLine := line, body := .unknown } ::
      placeholders file line (id + 1) names

theorem map_name_placeholders (file line id : Nat) (names : List Text) :
    (placeholders file line id names).map (·.name) = names := by
  induction names generalizing id with
  | nil => rfl
  | cons name names ih => rw [placeholders, List.map_cons, ih]

theorem map_id_placeholders (file line id : Nat) (names : List Text) :
    (placeholders file line id names).map (·.id) = List.range' id names.length := by
  induction names generalizing id with
  | nil => rfl
  | cons name names ih => rw [placeholders, List.map_cons, ih, List.length_cons, List.range'_succ]

/-- A placeholder is known by its name and number: there is nothing else to it. -/
theorem eq_of_mem_placeholders {id : Nat} {names : List Text} {s : Symbol}
    (h : s ∈ placeholders file line id names) :
    s = { id := s.id, name := s.name, file, firstLine := line, lastLine := line,
          body := .unknown } := by
  induction names generalizing id with
  | nil => cases h
  | cons name names ih =>
    rcases List.mem_cons.1 h with rfl | h
    · rfl
    · exact ih h

theorem mem_missing {names : List Text} :
    name ∈ t.missing names ↔ name ∈ names ∧ t.lookup? name = none := by
  rw [missing, List.mem_eraseDups, List.mem_filter, Option.isNone_iff_eq_none]

theorem nodup_missing (t : SymbolTable) (names : List Text) : (t.missing names).Nodup :=
  nodup_eraseDups _

theorem missing_eq_nil {names : List Text} (h : ∀ name ∈ names, (t.lookup? name).isSome) :
    t.missing names = [] := by
  rw [List.eq_nil_iff_forall_not_mem]
  intro name hname
  obtain ⟨hmem, hnone⟩ := mem_missing.1 hname
  have hsome := h name hmem
  rw [hnone] at hsome
  cases hsome

/-- A new symbol provides for its own name and for no other. -/
theorem isNone_lookup?_create {kind : SymbolKind} {used : Text} :
    ((t.create kind used file line).1.lookup? name).isNone =
      ((t.lookup? name).isNone && !(name == used)) := by
  rw [Bool.eq_iff_iff, Bool.and_eq_true, Option.isNone_iff_eq_none, Option.isNone_iff_eq_none,
    lookup?_eq_none_iff, lookup?_eq_none_iff]
  constructor
  · intro h
    refine ⟨fun s hs => h s (mem_symbols_create.2 (Or.inl hs)), ?_⟩
    have hnew := h (t.newSymbol kind used file line) (mem_symbols_create.2 (Or.inr rfl))
    simpa using Ne.symm hnew
  · rintro ⟨hold, hne⟩ s hs
    rcases mem_symbols_create.1 hs with hs | rfl
    · exact hold s hs
    · have hne : name ≠ used := by simpa using hne
      exact hne.symm

/-! ### Using several names -/

/-- **All that the use of names does**: each of them that has no symbol gets an unknown one, behind
the others and under the next number. -/
theorem resolveAll_eq (t : SymbolTable) (names : List Text) (file line : Nat) :
    t.resolveAll names file line =
      { symbols := t.symbols ++ placeholders file line t.nextId (t.missing names),
        nextId := t.nextId + (t.missing names).length } := by
  induction names generalizing t with
  | nil => simp [resolveAll, missing, placeholders]
  | cons name names ih =>
    show (t.resolve name file line).1.resolveAll names file line = _
    cases hl : t.lookup? name with
    | some s =>
      -- the name has a symbol, so it is none of those that lack one
      have hmissing : t.missing (name :: names) = t.missing names := by
        rw [missing, List.filter_cons_of_neg (by simp [hl]), ← missing]
      rw [SymbolTable.resolve, hl, ih, hmissing]
    | none =>
      let made := (t.create .unknown name file line).1
      -- the first one without a symbol; what follows is looked for in the table with its symbol
      have hmissing : t.missing (name :: names) = name :: made.missing names := by
        have hfilter : (names.filter fun n => (made.lookup? n).isNone) =
            (names.filter fun n => (t.lookup? n).isNone).filter fun n => !n == name := by
          rw [List.filter_filter]
          refine List.filter_congr fun n _ => ?_
          rw [isNone_lookup?_create, Bool.and_comm]
        rw [missing, List.filter_cons_of_pos (by simp [hl]), List.eraseDups_cons, missing, hfilter]
      rw [SymbolTable.resolve, hl, ih, hmissing]
      simp only [SymbolTable.mk.injEq]
      constructor
      · show t.symbols ++ [_] ++ _ = _
        rw [List.append_assoc]
        rfl
      · show t.nextId + 1 + (made.missing names).length = _
        rw [List.length_cons]
        omega

/-- Names that have symbols may be used again without effect. -/
theorem resolveAll_eq_self {names : List Text} (h : ∀ name ∈ names, (t.lookup? name).isSome)
    (file line : Nat) : t.resolveAll names file line = t := by
  rw [resolveAll_eq, missing_eq_nil h]
  simp [placeholders]

/-! ### Signing -/

/-- A type that was signed is, but for the numbers, the type that was read. -/
theorem mapRefs_token_sign (t : SymbolTable) (sketch : Sketch) :
    (t.sign sketch).mapRefs (·.token) = sketch := by
  rw [sign, TypeNode.mapRefs_mapRefs]
  exact TypeNode.mapRefs_id sketch

theorem map_token_sign (t : SymbolTable) (sketch : Sketch) :
    (t.sign sketch).refs.map (·.token) = sketch.refs := by
  rw [← TypeNode.refs_mapRefs, mapRefs_token_sign]

/-- Two tables sign a type alike when they number the names in it alike. -/
theorem sign_read_congr {v : Vocabulary} {type : Text}
    (h : ∀ name ∈ (TypeExpr.read v type).mentions, t.idOf name = t'.idOf name) :
    t.sign (TypeExpr.read v type).sketch = t'.sign (TypeExpr.read v type).sketch :=
  TypeExpr.mapRefs_read_congr fun name hname => by rw [h name hname]

theorem idOf_eq_of_lookup? {s : Symbol} (h : t.lookup? name = some s) : t.idOf name = s.id := by
  rw [idOf, h]
  rfl

/-! ### Later tables -/

/-- Every name that has a symbol keeps its number. -/
def PersistsIn (t T : SymbolTable) : Prop :=
  ∀ name s, t.lookup? name = some s → ∃ s', T.lookup? name = some s' ∧ s'.id = s.id

theorem PersistsIn.refl (t : SymbolTable) : t.PersistsIn t := fun _ s h => ⟨s, h, rfl⟩

theorem PersistsIn.trans {T : SymbolTable} (h : t.PersistsIn t') (h' : t'.PersistsIn T) :
    t.PersistsIn T := by
  intro name s hs
  obtain ⟨s', hs', hid⟩ := h name s hs
  obtain ⟨u, hu, hid'⟩ := h' name s' hs'
  exact ⟨u, hu, hid'.trans hid⟩

theorem PersistsIn.idOf_eq (h : t.PersistsIn t') (hname : (t.lookup? name).isSome) :
    t'.idOf name = t.idOf name := by
  obtain ⟨s, hs⟩ := Option.isSome_iff_exists.1 hname
  obtain ⟨s', hs', hid⟩ := h name s hs
  rw [idOf_eq_of_lookup? hs, idOf_eq_of_lookup? hs', hid]

theorem PersistsIn.isSome_lookup? (h : t.PersistsIn t') (hname : (t.lookup? name).isSome) :
    (t'.lookup? name).isSome := by
  obtain ⟨s, hs⟩ := Option.isSome_iff_exists.1 hname
  obtain ⟨s', hs', -⟩ := h name s hs
  rw [hs']
  rfl

theorem persistsIn_resolve (t : SymbolTable) (name : Text) (file line : Nat) :
    t.PersistsIn (t.resolve name file line).1 :=
  fun _ s hs => ⟨s, lookup?_resolve_of_eq_some hs, rfl⟩

theorem Extends.persistsIn {reading : Set Nat} (h : Extends reading t t') (hw : t.WellFormed) :
    t.PersistsIn t' := by
  intro name s hs
  obtain ⟨s', hs', hext⟩ := h.lookup?_eq_some hw hs
  exact ⟨s', hs', hext.id⟩

theorem isSome_lookup?_resolveAll {names : List Text} (h : name ∈ names) :
    ((t.resolveAll names file line).lookup? name).isSome :=
  Option.isSome_iff_exists.2 (exists_lookup?_resolveAll h)

end SymbolTable

end LuaAtlas
