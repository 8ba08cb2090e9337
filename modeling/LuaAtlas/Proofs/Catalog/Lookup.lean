import LuaAtlas.Answer.Symbols
import LuaAtlas.Proofs.Catalog.Declared
import LuaAtlas.Proofs.Symbol.Extension
import Mathlib.Data.Char
import Mathlib.Data.List.Lex

/-!
# Looking up by name is exact

The index of names is sorted, so the binary search splits it at the first entry that is not below
the name (`lowerBound_spec`), and the entries that begin with a text are found, all of them and no
others (`withBeginning_eq_filter`).  Of the symbols with a name the lookup then gives the one with
the lowest number (`find?_eq_some_iff`).  `ofTexts_lookup` puts the two together for catalogues of
texts.

So the symbol that a request means by a name is the one that the name stood for while the files were
read (`named?_eq_lookup?`): the first declared one, else the unknown one.
-/

namespace LuaAtlas

/-! ### The order of names -/

/-- A text between another one and its continuation continues it too. -/
theorem Text.prefix_of_between {start n m : Text} (hlow : ¬ n < start) (hhigh : ¬ m < n)
    (h : start <+: m) : start <+: n := by
  induction start generalizing n m with
  | nil => exact List.nil_prefix
  | cons c start ih =>
    obtain ⟨rest, rfl⟩ := h
    cases n with
    | nil => exact absurd (List.nil_lt_cons c start) hlow
    | cons b n =>
      rw [List.cons_lt_cons_iff, not_or] at hlow
      rw [List.cons_append, List.cons_lt_cons_iff, not_or] at hhigh
      have hbc : b = c := le_antisymm (not_lt.1 hhigh.1) (not_lt.1 hlow.1)
      subst hbc
      rw [List.prefix_cons_inj]
      exact ih (fun hlt => hlow.2 ⟨rfl, hlt⟩) (fun hlt => hhigh.2 ⟨rfl, hlt⟩)
        (List.prefix_append start rest)

theorem Text.beginsWith_iff {start t : Text} : beginsWith start t = true ↔ start <+: t := by
  unfold beginsWith
  rw [Option.isSome_iff_exists]
  constructor
  · rintro ⟨rest, h⟩
    exact ⟨rest, (after?_eq_some_iff.1 h).symm⟩
  · rintro ⟨rest, h⟩
    exact ⟨rest, after?_eq_some_iff.2 h.symm⟩

namespace NameEntry

variable {a b c : NameEntry}

theorem le_iff : le a b = true ↔ a.name < b.name ∨ a.name = b.name ∧ a.id ≤ b.id := by
  simp [le]

theorem le_trans (hab : le a b = true) (hbc : le b c = true) : le a c = true := by
  rw [le_iff] at hab hbc ⊢
  rcases hab with hab | ⟨hab, hid⟩
  · rcases hbc with hbc | ⟨hbc, -⟩
    · exact Or.inl (lt_trans hab hbc)
    · exact Or.inl (hbc ▸ hab)
  · rcases hbc with hbc | ⟨hbc, hid'⟩
    · exact Or.inl (hab ▸ hbc)
    · exact Or.inr ⟨hab.trans hbc, Nat.le_trans hid hid'⟩

theorem le_total (a b : NameEntry) : (le a b || le b a) = true := by
  rw [Bool.or_eq_true, le_iff, le_iff]
  rcases lt_trichotomy a.name b.name with h | h | h
  · exact Or.inl (Or.inl h)
  · rcases Nat.le_total a.id b.id with hid | hid
    · exact Or.inl (Or.inr ⟨h, hid⟩)
    · exact Or.inr (Or.inr ⟨h.symm, hid⟩)
  · exact Or.inr (Or.inl h)

theorem not_lt_of_le (h : le a b = true) : ¬ b.name < a.name := by
  rcases le_iff.1 h with h | ⟨h, -⟩
  · exact lt_asymm h
  · rw [h]
    exact lt_irrefl _

end NameEntry

namespace NameIndex

/-- The entries of an index stand in order. -/
def Sorted (index : List NameEntry) : Prop := index.Pairwise fun a b => NameEntry.le a b = true

theorem sorted_ofNames (names : List (Text × Nat)) : Sorted (ofNames names) := by
  refine List.pairwise_mergeSort (fun a b c => ?_) (fun a b => ?_) _
  · exact NameEntry.le_trans
  · exact NameEntry.le_total a b

theorem mem_ofNames {names : List (Text × Nat)} {e : NameEntry} :
    e ∈ ofNames names ↔ ∃ n ∈ names, e = ⟨Text.lower n.1, n.2⟩ := by
  rw [ofNames, (List.mergeSort_perm _ _).mem_iff, List.mem_map]
  exact exists_congr fun n => and_congr_right fun _ => eq_comm

/-! ### Binary search -/

variable {index : List NameEntry} {name start : Text} {e : NameEntry}

/-- **The search splits the index**: in front of its result names are below the given one, from
there on they are not.  The search keeps this in front of `low` and from `high` on. -/
theorem lowerBound_spec (h : Sorted index) (name : Text) (low high : Nat)
    (hhigh : high ≤ index.length)
    (hbelow : ∀ i e, i < low → index[i]? = some e → e.name < name)
    (habove : ∀ i e, high ≤ i → index[i]? = some e → ¬ e.name < name) :
    let p := lowerBound index.toArray name low high
    (∀ i e, i < p → index[i]? = some e → e.name < name) ∧
      ∀ i e, low ≤ high → p ≤ i → index[i]? = some e → ¬ e.name < name := by
  induction hn : high - low using Nat.strongRecOn generalizing low high with
  | _ n ih =>
  intro p
  have hsorted {i j : Nat} {a b : NameEntry} (hij : i < j) (ha : index[i]? = some a)
      (hb : index[j]? = some b) : ¬ b.name < a.name := by
    obtain ⟨hi, rfl⟩ := List.getElem?_eq_some_iff.1 ha
    obtain ⟨hj, rfl⟩ := List.getElem?_eq_some_iff.1 hb
    exact NameEntry.not_lt_of_le (List.pairwise_iff_getElem.1 h i j hi hj hij)
  by_cases hlt : low < high
  · obtain ⟨e, he⟩ : ∃ e, index[(low + high) / 2]? = some e :=
      ⟨_, List.getElem?_eq_getElem (show (low + high) / 2 < index.length by omega)⟩
    have hmiddle : index.toArray[(low + high) / 2]? = some e := by
      rw [List.getElem?_toArray]
      exact he
    have hp : p = if e.name < name then
        lowerBound index.toArray name ((low + high) / 2 + 1) high
      else lowerBound index.toArray name low ((low + high) / 2) := by
      show lowerBound index.toArray name low high = _
      rw [lowerBound]
      simp only [hlt, ↓reduceIte, hmiddle]
    rw [hp]
    split
    · rename_i hless
      have hstep := ih (high - ((low + high) / 2 + 1)) (by omega) ((low + high) / 2 + 1) high hhigh
        (fun i a hi ha => ?_) habove rfl
      · exact ⟨hstep.1, fun i a _ hi ha => hstep.2 i a (by omega) hi ha⟩
      · -- what stands before an entry below the name is below it too
        rcases Nat.lt_succ_iff_lt_or_eq.1 hi with hi | rfl
        · exact lt_of_le_of_lt (not_lt.1 (hsorted hi ha he)) hless
        · rw [he] at ha
          cases ha
          exact hless
    · rename_i hnot
      have hstep := ih ((low + high) / 2 - low) (by omega) low ((low + high) / 2) (by omega) hbelow
        (fun i a hi ha => ?_) rfl
      · exact ⟨hstep.1, fun i a _ hi ha => hstep.2 i a (by omega) hi ha⟩
      · rcases Nat.eq_or_lt_of_le hi with rfl | hi
        · rw [he] at ha
          cases ha
          exact hnot
        · exact fun hless => hnot (lt_of_le_of_lt (not_lt.1 (hsorted hi he ha)) hless)
  · have hp : p = low := by
      show lowerBound index.toArray name low high = low
      rw [lowerBound]
      simp only [hlt, ↓reduceIte]
    rw [hp]
    exact ⟨hbelow, fun i e hle hi => habove i e (by omega)⟩

/-- Where the test holds of no element behind one of which it does not hold, the elements that pass
it are the first ones. -/
theorem takeWhile_eq_filter {α : Type} {p : α → Bool} {l : List α}
    (h : l.Pairwise fun a b => p b = true → p a = true) : l.takeWhile p = l.filter p := by
  induction l with
  | nil => rfl
  | cons a l ih =>
    obtain ⟨ha, hl⟩ := List.pairwise_cons.1 h
    by_cases hp : p a = true
    · rw [List.takeWhile_cons_of_pos hp, List.filter_cons_of_pos hp, ih hl]
    · rw [List.takeWhile_cons_of_neg hp, List.filter_cons_of_neg hp, eq_comm,
        List.filter_eq_nil_iff]
      exact fun b hb hpb => hp (ha b hb hpb)

/-- What is found stands in the order of the index. -/
theorem sublist_withBeginning (index : List NameEntry) (start : Text) :
    (withBeginning index start).Sublist index :=
  (List.takeWhile_sublist _).trans (List.drop_sublist _ _)

/-- **The entries that begin with a text stand together**: the binary search and the walk from there
find those that a scan of the whole index would find. -/
theorem withBeginning_eq_filter (h : Sorted index) (start : Text) :
    withBeginning index start = index.filter fun e => Text.beginsWith start e.name := by
  obtain ⟨hbelow, habove⟩ := lowerBound_spec h start 0 index.length (Nat.le_refl _)
    (fun i e hi => absurd hi (Nat.not_lt_zero i))
    (fun i e hi he => by rw [List.getElem?_eq_none hi] at he; cases he)
  let first := lowerBound index.toArray start 0 index.length
  -- a name that is below the text does not begin with it
  have hfront : (index.take first).filter (fun e => Text.beginsWith start e.name) = [] := by
    rw [List.filter_eq_nil_iff]
    intro e he hbegins
    obtain ⟨i, hi⟩ := List.mem_iff_getElem?.1 he
    rw [List.getElem?_take] at hi
    split at hi
    · rename_i hlt
      have hle : ¬ e.name < start := (Text.beginsWith_iff.1 hbegins).le
      exact hle (hbelow i e hlt hi)
    · cases hi
  -- from the split on, names between the text and its continuation continue the text
  have hblock : (index.drop first).Pairwise fun a b =>
      Text.beginsWith start b.name = true → Text.beginsWith start a.name = true := by
    rw [List.pairwise_iff_getElem]
    intro i j hi hj hij hb
    rw [Text.beginsWith_iff] at hb ⊢
    rw [List.getElem_drop] at hb ⊢
    rw [List.length_drop] at hi hj
    refine Text.prefix_of_between (habove _ _ (Nat.zero_le _) (Nat.le_add_right _ i)
      (List.getElem?_eq_getElem (by omega))) ?_ hb
    exact NameEntry.not_lt_of_le (List.pairwise_iff_getElem.1 h _ _ _ _ (by omega))
  calc withBeginning index start
      = (index.drop first).filter (fun e => Text.beginsWith start e.name) :=
        takeWhile_eq_filter hblock
    _ = (index.take first ++ index.drop first).filter (fun e => Text.beginsWith start e.name) := by
        rw [List.filter_append, hfront, List.nil_append]
    _ = index.filter (fun e => Text.beginsWith start e.name) := by
        rw [List.take_append_drop]

/-- All entries that begin with a text are found, and no others. -/
theorem mem_withBeginning (h : Sorted index) :
    e ∈ withBeginning index start ↔ e ∈ index ∧ start <+: e.name := by
  rw [withBeginning_eq_filter h, List.mem_filter, Text.beginsWith_iff]

end NameIndex

/-- A name stands for the symbol with the lowest number among those that have it. -/
theorem SymbolTable.WellFormed.id_le_of_lookup?_eq_some {t : SymbolTable} {name : Text}
    {s u : Symbol} (h : t.WellFormed) (hl : t.lookup? name = some s) (hu : u ∈ t.symbols)
    (hname : u.name = name) : s.id ≤ u.id := by
  rw [h.lookup?_eq_find?, List.find?_eq_some_iff_append] at hl
  obtain ⟨-, before, after, hsplit, hbefore⟩ := hl
  have hsorted := h.sorted
  rw [hsplit] at hu hsorted
  rcases List.mem_append.1 hu with hu | hu
  · have hne := hbefore u hu
    simp [hname] at hne
  · rcases List.mem_cons.1 hu with rfl | hu
    · exact Nat.le_refl _
    · exact Nat.le_of_lt ((List.pairwise_cons.1 (List.pairwise_append.1 hsorted).2.1).1 u hu)

/-- The entry of a symbol in an index. -/
def NameEntry.ofSymbol (s : Symbol) : NameEntry := ⟨Text.lower s.name, s.id⟩

/-- Whether a symbol is of the given kind; without one, whether it is declared. -/
def Symbol.isOf (kind : Option SymbolKind) (s : Symbol) : Bool :=
  match kind with
  | none => s.kind != .unknown
  | some kind => s.kind == kind

namespace Catalog

variable {c : Catalog} {name : Text} {kind : Option SymbolKind} {s : Symbol}

/-- The symbols that are looked for: those of a kind, or all declared ones. -/
def candidates (c : Catalog) : Option SymbolKind → List Symbol
  | none => c.declared
  | some kind => c.ofKind kind

theorem namesFor_eq (c : Catalog) (kind : Option SymbolKind) :
    c.namesFor kind = symbolIndex (c.candidates kind) := by
  cases kind <;> rfl

/-- They are the symbols of that kind, each once. -/
theorem perm_candidates (c : Catalog) (kind : Option SymbolKind) :
    (c.candidates kind).Perm (c.symbols.filter (Symbol.isOf kind)) := by
  cases kind with
  | none => exact perm_declared c
  | some kind => exact List.Perm.refl _

theorem mem_candidates : s ∈ c.candidates kind ↔ s ∈ c.symbols ∧ s.isOf kind = true := by
  rw [(perm_candidates c kind).mem_iff, List.mem_filter]

/-- The index holds one entry for each of them. -/
theorem perm_namesFor (c : Catalog) (kind : Option SymbolKind) :
    (c.namesFor kind).Perm ((c.symbols.filter (Symbol.isOf kind)).map NameEntry.ofSymbol) := by
  rw [namesFor_eq, symbolIndex, NameIndex.ofNames, List.map_map]
  exact (List.mergeSort_perm _ _).trans ((perm_candidates c kind).map _)

theorem sorted_namesFor (c : Catalog) (kind : Option SymbolKind) :
    NameIndex.Sorted (c.namesFor kind) := by
  rw [namesFor_eq]
  exact NameIndex.sorted_ofNames _

theorem get?_of_mem_candidates {d : Draft} (h : d.table.WellFormed) {files : List (List Text)}
    (hs : s ∈ (ofDraft d files).candidates kind) : (ofDraft d files).get? s.id = some s :=
  h.get?_eq_some_iff.2 ⟨(mem_candidates.1 hs).1, rfl⟩

/-- What the entries that are found lead to: the symbols that are looked for and have the name. -/
theorem mem_findByBeginning (hget : ∀ s ∈ c.candidates kind, c.get? s.id = some s) {e : NameEntry}
    (he : e ∈ c.findByBeginning name kind) :
    (c.get? e.id).filter (·.name == name) = some s ↔
      s ∈ c.candidates kind ∧ s.name = name ∧ e = ⟨Text.lower name, s.id⟩ := by
  rw [findByBeginning, namesFor_eq, symbolIndex,
    NameIndex.mem_withBeginning (NameIndex.sorted_ofNames _), NameIndex.mem_ofNames] at he
  obtain ⟨⟨n, hn, rfl⟩, -⟩ := he
  obtain ⟨u, hu, rfl⟩ := List.mem_map.1 hn
  rw [hget u hu, Option.filter_eq_some_iff, Option.some_inj, beq_iff_eq]
  constructor
  · rintro ⟨rfl, rfl⟩
    exact ⟨hu, rfl, rfl⟩
  · rintro ⟨hs, rfl, he⟩
    have hid : u.id = s.id := congrArg NameEntry.id he
    have hone : c.get? u.id = some s := hid ▸ hget s hs
    rw [hget u hu, Option.some_inj] at hone
    exact ⟨hone, rfl⟩

theorem mem_findByBeginning_of_mem (hs : s ∈ c.candidates kind) (hname : s.name = name) :
    (⟨Text.lower name, s.id⟩ : NameEntry) ∈ c.findByBeginning name kind := by
  rw [findByBeginning, namesFor_eq, symbolIndex,
    NameIndex.mem_withBeginning (NameIndex.sorted_ofNames _), NameIndex.mem_ofNames]
  refine ⟨⟨(s.name, s.id), List.mem_map_of_mem hs, ?_⟩, List.prefix_rfl⟩
  rw [hname]

/-- **The symbol with a name is found**: of several the one with the lowest number. -/
theorem find?_eq_some_iff (hget : ∀ s ∈ c.candidates kind, c.get? s.id = some s) :
    c.find? name kind = some s ↔
      s ∈ c.candidates kind ∧ s.name = name ∧
        ∀ u ∈ c.candidates kind, u.name = name → s.id ≤ u.id := by
  have hsorted : (c.findByBeginning name kind).Pairwise fun a b => NameEntry.le a b = true :=
    (sorted_namesFor c kind).sublist (NameIndex.sublist_withBeginning _ _)
  have hleast {s : Symbol} (h : c.find? name kind = some s) :
      s ∈ c.candidates kind ∧ s.name = name ∧
        ∀ u ∈ c.candidates kind, u.name = name → s.id ≤ u.id := by
    obtain ⟨before, e, after, hsplit, he, hbefore⟩ := List.findSome?_eq_some_iff.1 h
    have hmem : e ∈ c.findByBeginning name kind := by
      rw [hsplit]
      exact List.mem_append_right _ (List.mem_cons_self ..)
    obtain ⟨hs, hname, rfl⟩ := (mem_findByBeginning hget hmem).1 he
    refine ⟨hs, hname, fun u hu hun => ?_⟩
    have hu' := mem_findByBeginning_of_mem hu hun
    have hfound := (mem_findByBeginning hget hu').2 ⟨hu, hun, rfl⟩
    -- no entry in front leads to a symbol, and those behind have higher numbers
    rw [hsplit] at hu' hsorted
    rcases List.mem_append.1 hu' with hu' | hu'
    · rw [hbefore _ hu'] at hfound
      cases hfound
    · rcases List.mem_cons.1 hu' with heq | hu'
      · exact Nat.le_of_eq (congrArg NameEntry.id heq).symm
      · have hle := (List.pairwise_cons.1 (List.pairwise_append.1 hsorted).2.1).1 _ hu'
        rcases NameEntry.le_iff.1 hle with hlt | ⟨-, hid⟩
        · exact absurd hlt (lt_irrefl _)
        · exact hid
  refine ⟨hleast, ?_⟩
  rintro ⟨hs, hname, hmin⟩
  cases hfind : c.find? name kind with
  | none =>
    have hmem := mem_findByBeginning_of_mem hs hname
    have hnone := List.findSome?_eq_none_iff.1 hfind _ hmem
    rw [(mem_findByBeginning hget hmem).2 ⟨hs, hname, rfl⟩] at hnone
    cases hnone
  | some u =>
    obtain ⟨hu, hun, humin⟩ := hleast hfind
    have hid : u.id = s.id := Nat.le_antisymm (humin s hs hname) (hmin u hu hun)
    have hone := hget u hu
    rw [hid, hget s hs] at hone
    exact hone.symm

theorem find?_eq_none_iff (hget : ∀ s ∈ c.candidates kind, c.get? s.id = some s) :
    c.find? name kind = none ↔ ∀ s ∈ c.candidates kind, s.name ≠ name := by
  constructor
  · intro h s hs hname
    have hmem := mem_findByBeginning_of_mem hs hname
    have hnone := List.findSome?_eq_none_iff.1 h _ hmem
    rw [(mem_findByBeginning hget hmem).2 ⟨hs, hname, rfl⟩] at hnone
    cases hnone
  · intro h
    refine Option.eq_none_iff_forall_not_mem.2 fun s hs => ?_
    obtain ⟨hmem, hname, -⟩ := (find?_eq_some_iff hget).1 hs
    exact h s hmem hname

/-- **A name means the symbol that it stood for.** -/
theorem named?_eq_lookup? {d : Draft} (h : d.table.WellFormed) (files : List (List Text))
    (name : Text) : Answer.named? (ofDraft d files) name = d.table.lookup? name := by
  have hmem {kind : Option SymbolKind} {s : Symbol} (hs : s ∈ (ofDraft d files).candidates kind) :
      s ∈ d.table.symbols := (mem_candidates.1 hs).1
  have hget {kind : Option SymbolKind} :
      ∀ s ∈ (ofDraft d files).candidates kind, (ofDraft d files).get? s.id = some s :=
    fun _ => get?_of_mem_candidates h
  rw [Answer.named?]
  cases hl : d.table.lookup? name with
  | none =>
    have hno {kind : Option SymbolKind} : (ofDraft d files).find? name kind = none :=
      (find?_eq_none_iff hget).2 fun s hs => SymbolTable.lookup?_eq_none_iff.1 hl s (hmem hs)
    rw [hno, hno]
    rfl
  | some s =>
    obtain ⟨hs, hname⟩ := SymbolTable.mem_of_lookup?_eq_some hl
    have hfound (kind : Option SymbolKind) (hk : s ∈ (ofDraft d files).candidates kind) :
        (ofDraft d files).find? name kind = some s :=
      (find?_eq_some_iff hget).2 ⟨hk, hname, fun u hu hun =>
        h.id_le_of_lookup?_eq_some hl (hmem hu) hun⟩
    by_cases hk : s.kind = .unknown
    · -- an unknown symbol is alone, so no declared one is found before it
      have hno : (ofDraft d files).find? name none = none := by
        refine (find?_eq_none_iff hget).2 fun u hu hun => ?_
        have heq := h.alone s hs u (hmem hu) (hname.trans hun.symm) hk
        exact (mem_declared.1 hu).2 (heq ▸ hk)
      rw [hno, hfound (some .unknown) (mem_unresolved.2 ⟨hs, hk⟩)]
      rfl
    · rw [hfound none (mem_declared.2 ⟨hs, hk⟩)]
      rfl

/-- The binary search through an index finds what a scan of it would find. -/
theorem findByBeginning_eq_filter (c : Catalog) (start : Text) (kind : Option SymbolKind) :
    c.findByBeginning start kind =
      (c.namesFor kind).filter fun e => (Text.lower start).isPrefixOf e.name := by
  rw [findByBeginning, NameIndex.withBeginning_eq_filter (sorted_namesFor c kind)]
  refine List.filter_congr fun e _ => ?_
  rw [Bool.eq_iff_iff, Text.beginsWith_iff, List.isPrefixOf_iff_prefix]

/-- **Looking up is the plain scan.**  The index of a kind, or of all declared kinds, lists its
symbols once each, by name in lower case and then by number; a beginning finds the entries that
begin with it, in the order of the index; and a name finds the symbol with the lowest number among
those that have exactly this name, or nothing if there is none. -/
theorem ofTexts_lookup (v : Vocabulary) (texts : List Text) (kind : Option SymbolKind) :
    let c := ofTexts v texts
    (NameIndex.Sorted (c.namesFor kind) ∧
      (c.namesFor kind).Perm ((c.symbols.filter (Symbol.isOf kind)).map NameEntry.ofSymbol)) ∧
    (∀ start, c.findByBeginning start kind =
      (c.namesFor kind).filter fun e => (Text.lower start).isPrefixOf e.name) ∧
    ∀ name,
      (∀ s, c.find? name kind = some s ↔
        (s ∈ c.symbols ∧ s.isOf kind = true ∧ s.name = name) ∧
          ∀ u ∈ c.symbols, u.isOf kind = true → u.name = name → s.id ≤ u.id) ∧
      (c.find? name kind = none ↔ ∀ s ∈ c.symbols, s.isOf kind = true → s.name ≠ name) := by
  intro c
  have hget : ∀ s ∈ c.candidates kind, c.get? s.id = some s :=
    fun _ => get?_of_mem_candidates (wellFormed_draftOf v (texts.map Text.lines))
  refine ⟨⟨sorted_namesFor c kind, perm_namesFor c kind⟩,
    fun start => findByBeginning_eq_filter c start kind, fun name => ⟨fun s => ?_, ?_⟩⟩
  · rw [find?_eq_some_iff hget]
    simp only [mem_candidates, and_imp, and_assoc]
  · rw [find?_eq_none_iff hget]
    simp only [mem_candidates, and_imp]

end Catalog

end LuaAtlas
