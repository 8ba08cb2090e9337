import LuaAtlas.Proofs.Lineage.Traversal

/-!
# The forest of all classes

The trees of the forest start at two sorts of symbols.  The tops are the classes without a parent in
the catalogue and the parents that are no classes; what lies below them are the symbols from which
going up meets no cycle (`exists_top_above_iff`).  The late tops are taken from the other classes,
in their order, each unless it lies below an earlier one (`lateTops`).

Together they reach every class (`exists_unreached_above`).  Since a list of trees holds what lies
below its starts, and nothing twice, the forest lists each class and each parent of a class once
(`flatten_forest_covers`).
-/

namespace LuaAtlas.Lineage

open LuaAtlas.Tree

variable {c : Catalog} {s t k : Symbol} {symbols : List Symbol} {reached : List Nat} {n m : Nat}

/-! ### Tops -/

theorem mem_of_mem_distinct (h : s ∈ distinct symbols) : s ∈ symbols := by
  induction symbols with
  | nil => exact h
  | cons u rest ih =>
    rcases List.mem_cons.1 h with rfl | h
    · exact List.mem_cons_self
    · exact List.mem_cons_of_mem _ (ih (List.mem_filter.1 h).1)

theorem exists_mem_distinct (h : s ∈ symbols) : ∃ u ∈ distinct symbols, u.id = s.id := by
  induction symbols with
  | nil => cases h
  | cons u rest ih =>
    by_cases he : s.id = u.id
    · exact ⟨u, List.mem_cons_self, he.symm⟩
    · rcases List.mem_cons.1 h with rfl | h
      · exact absurd rfl he
      · obtain ⟨w, hw, hid⟩ := ih h
        refine ⟨w, List.mem_cons_of_mem _ (List.mem_filter.2 ⟨hw, ?_⟩), hid⟩
        simpa [hid] using he

theorem topFor?_eq_some_iff : topFor? c k = some t ↔
    (knownParent? c k = none ∧ k = t) ∨ (knownParent? c k = some t ∧ t.kind ≠ .classKind) := by
  unfold topFor?
  cases knownParent? c k with
  | none => simp
  | some p =>
    by_cases hkind : p.kind = .classKind
    · simp only [hkind, if_true, reduceCtorEq, false_and, false_or, Option.some_inj, false_iff,
        not_and, not_not]
      rintro rfl
      exact hkind
    · simp only [hkind, if_false, reduceCtorEq, false_and, false_or, Option.some_inj]
      refine ⟨?_, And.left⟩
      rintro rfl
      exact ⟨rfl, hkind⟩

theorem knownParent?_eq_some_iff (hids : (c.symbols.map (·.id)).Nodup) :
    knownParent? c k = some t ↔ t ∈ c.symbols ∧ k.parent = some t.id := by
  unfold knownParent?
  rw [Option.bind_eq_some_iff]
  constructor
  · rintro ⟨p, hparent, hget⟩
    obtain ⟨ht, rfl⟩ := Catalog.mem_symbols_of_get? hget
    exact ⟨ht, hparent⟩
  · rintro ⟨ht, hparent⟩
    exact ⟨t.id, hparent, Catalog.get?_of_mem hids ht⟩

/-- A class is topmost if its parent is not known. -/
theorem topmost_iff (hids : (c.symbols.map (·.id)).Nodup) (hs : s ∈ c.classes) :
    Topmost c s.id ↔ knownParent? c s = none := by
  obtain ⟨hmem, hkind⟩ := Catalog.mem_classes.1 hs
  have hget := Catalog.get?_of_mem hids hmem
  unfold knownParent? Topmost
  rw [Option.bind_eq_none_iff]
  constructor
  · exact fun h p hp => h p ⟨s, hget, hkind, hp⟩
  · rintro h p ⟨u, hu, -, hp⟩
    rw [hget, Option.some_inj] at hu
    subst hu
    exact h p hp

/-- **The tops** are the topmost classes and the parents of classes that are no classes. -/
theorem mem_tops_iff (hids : (c.symbols.map (·.id)).Nodup) :
    t ∈ tops c ↔ (t ∈ c.classes ∧ Topmost c t.id) ∨
      (t ∈ c.symbols ∧ t.kind ≠ .classKind ∧ ∃ k ∈ c.classes, k.parent = some t.id) := by
  have hgiven (u : Symbol) : u ∈ c.classes.filterMap (topFor? c) ↔
      (u ∈ c.classes ∧ Topmost c u.id) ∨
        (u ∈ c.symbols ∧ u.kind ≠ .classKind ∧ ∃ k ∈ c.classes, k.parent = some u.id) := by
    simp only [List.mem_filterMap, topFor?_eq_some_iff, knownParent?_eq_some_iff hids]
    constructor
    · rintro ⟨k, hk, ⟨hnone, rfl⟩ | ⟨⟨hu, hparent⟩, hkind⟩⟩
      · exact Or.inl ⟨hk, (topmost_iff hids hk).2 hnone⟩
      · exact Or.inr ⟨hu, hkind, k, hk, hparent⟩
    · rintro (⟨hu, htop⟩ | ⟨hu, hkind, k, hk, hparent⟩)
      · exact ⟨u, hu, Or.inl ⟨(topmost_iff hids hu).1 htop, rfl⟩⟩
      · exact ⟨k, hk, Or.inr ⟨⟨hu, hparent⟩, hkind⟩⟩
  have hsymbols {u : Symbol} (hu : u ∈ c.classes.filterMap (topFor? c)) : u ∈ c.symbols := by
    rcases (hgiven u).1 hu with ⟨hu, -⟩ | ⟨hu, -, -⟩
    · exact (Catalog.mem_classes.1 hu).1
    · exact hu
  rw [← hgiven, tops]
  refine ⟨mem_of_mem_distinct, fun ht => ?_⟩
  -- the one that is kept has the same number, so it is the same symbol
  obtain ⟨u, hu, hid⟩ := exists_mem_distinct ht
  rw [← Catalog.eq_of_id_eq hids (hsymbols (mem_of_mem_distinct hu)) (hsymbols ht) hid]
  exact hu

theorem mem_symbols_of_mem_tops (hids : (c.symbols.map (·.id)).Nodup) (h : t ∈ tops c) :
    t ∈ c.symbols := by
  rcases (mem_tops_iff hids).1 h with ⟨ht, -⟩ | ⟨ht, -, -⟩
  · exact (Catalog.mem_classes.1 ht).1
  · exact ht

theorem topmost_of_mem_tops (hids : (c.symbols.map (·.id)).Nodup) (h : t ∈ tops c) :
    Topmost c t.id := by
  rcases (mem_tops_iff hids).1 h with ⟨-, htop⟩ | ⟨ht, hkind, -⟩
  · exact htop
  · rintro p ⟨u, hu, hclass, -⟩
    rw [Catalog.get?_of_mem hids ht, Option.some_inj] at hu
    exact absurd (hu ▸ hclass) hkind

/-- **The tops reach the classes from which going up meets no cycle.** -/
theorem exists_top_above_iff (hids : (c.symbols.map (·.id)).Nodup) (hs : s ∈ c.classes) :
    (∃ t ∈ tops c, Below c s.id t.id) ↔ ¬ MeetsCycle c s.id := by
  constructor
  · rintro ⟨t, ht, hbelow⟩
    exact (topmost_of_mem_tops hids ht).not_meetsCycle hbelow
  · intro hcycle
    obtain ⟨hmem, hclass⟩ := Catalog.mem_classes.1 hs
    have hget := Catalog.get?_of_mem hids hmem
    obtain ⟨y, t, hbelow, ht, htop⟩ := (meetsCycle_or_topmost hids hget).resolve_left hcycle
    obtain ⟨htmem, rfl⟩ := Catalog.mem_symbols_of_get? ht
    refine ⟨t, (mem_tops_iff hids).2 ?_, hbelow⟩
    by_cases hkind : t.kind = .classKind
    · exact Or.inl ⟨Catalog.mem_classes.2 ⟨htmem, hkind⟩, htop⟩
    · right
      refine ⟨htmem, hkind, ?_⟩
      -- a symbol that is no class was come to from one of its children
      rcases Relation.ReflTransGen.cases_tail hbelow with he | ⟨z, -, hnames⟩
      · rw [he, hget, Option.some_inj] at ht
        exact absurd (ht ▸ hclass) hkind
      · obtain ⟨k, hk, -⟩ := exists_mem_childrenOf hnames
        exact ⟨k, mem_childrenOf.1 hk⟩

/-! ### Late tops -/

/-- The symbols that are not reached, each with what lies below it taken as reached from then on. -/
def unreached (c : Catalog) (reached : List Nat) : List Symbol → List Symbol
  | [] => []
  | s :: rest =>
    if reached.contains s.id then unreached c reached rest
    else s :: unreached c (reached ++ (flatten [treeOf c s]).map (·.1.id)) rest

/-- **The classes that get a tree of their own** because the tops do not reach them. -/
def lateTops (c : Catalog) : List Symbol :=
  unreached c ((flatten ((tops c).map (treeOf c))).map (·.1.id)) c.classes

theorem addUnreached_eq (trees : List Tree) : addUnreached c trees reached symbols =
    trees ++ (unreached c reached symbols).map (treeOf c) := by
  induction symbols generalizing trees reached with
  | nil => rw [addUnreached, unreached, List.map_nil, List.append_nil]
  | cons s rest ih =>
    rw [addUnreached, unreached]
    split
    · exact ih trees
    · rw [ih, List.map_cons, List.append_assoc, List.singleton_append]

/-- **The forest is the trees below the tops and the late tops.** -/
theorem forest_eq (c : Catalog) : forest c = (tops c ++ lateTops c).map (treeOf c) := by
  rw [forest, addUnreached_eq, List.map_append, lateTops]

theorem mem_ids_flatten_singleton (hids : (c.symbols.map (·.id)).Nodup) (hs : s ∈ c.symbols) :
    n ∈ (flatten [treeOf c s]).map (·.1.id) ↔ Below c n s.id := by
  have hiff : n ∈ (flatten ([s].map (treeOf c))).map (·.1.id) ↔ ∃ r ∈ [s], Below c n r.id :=
    mem_ids_flatten_iff hids (by simpa using hs)
  simpa using hiff

theorem unreached_sublist : (unreached c reached symbols).Sublist symbols := by
  induction symbols generalizing reached with
  | nil => exact .slnil
  | cons s rest ih =>
    rw [unreached]
    split
    · exact ih.cons s
    · exact ih.cons_cons s

theorem not_mem_reached (h : s ∈ unreached c reached symbols) : s.id ∉ reached := by
  induction symbols generalizing reached with
  | nil => cases h
  | cons u rest ih =>
    rw [unreached] at h
    split at h
    · exact ih h
    · rename_i hu
      rcases List.mem_cons.1 h with rfl | h
      · simpa using hu
      · exact fun hs => ih h (List.mem_append_left _ hs)

/-- A symbol was reached, or lies below one that gets a tree. -/
theorem exists_unreached_above (hids : (c.symbols.map (·.id)).Nodup)
    (hsymbols : ∀ s ∈ symbols, s ∈ c.symbols) (hs : s ∈ symbols) :
    s.id ∈ reached ∨ ∃ r ∈ unreached c reached symbols, Below c s.id r.id := by
  induction symbols generalizing reached with
  | nil => cases hs
  | cons u rest ih =>
    obtain ⟨humem, hrest⟩ := List.forall_mem_cons.1 hsymbols
    rw [unreached]
    split
    · rename_i hu
      rcases List.mem_cons.1 hs with rfl | hs
      · exact Or.inl (by simpa using hu)
      · exact ih hrest hs
    · rcases List.mem_cons.1 hs with rfl | hs
      · exact Or.inr ⟨s, List.mem_cons_self, .refl⟩
      · let more := reached ++ (flatten [treeOf c u]).map (·.1.id)
        have hrec : s.id ∈ more ∨ ∃ r ∈ unreached c more rest, Below c s.id r.id := ih hrest hs
        rcases hrec with hreached | ⟨r, hr, hbelow⟩
        · rcases List.mem_append.1 hreached with hreached | hbelow
          · exact Or.inl hreached
          · exact Or.inr ⟨u, List.mem_cons_self, (mem_ids_flatten_singleton hids humem).1 hbelow⟩
        · exact Or.inr ⟨r, List.mem_cons_of_mem _ hr, hbelow⟩

theorem mem_classes_of_mem_lateTops (h : s ∈ lateTops c) : s ∈ c.classes :=
  unreached_sublist.subset h

/-- The numbers that the tops reach. -/
theorem mem_reached_iff (hids : (c.symbols.map (·.id)).Nodup) :
    n ∈ (flatten ((tops c).map (treeOf c))).map (·.1.id) ↔ ∃ t ∈ tops c, Below c n t.id :=
  mem_ids_flatten_iff hids fun _ ht => mem_symbols_of_mem_tops hids ht

/-- Going up from a late top meets a cycle. -/
theorem meetsCycle_of_mem_lateTops (hids : (c.symbols.map (·.id)).Nodup) (h : s ∈ lateTops c) :
    MeetsCycle c s.id := by
  have hreached := not_mem_reached h
  rw [mem_reached_iff hids, exists_top_above_iff hids (mem_classes_of_mem_lateTops h)] at hreached
  exact not_not.1 hreached

theorem mem_symbols_of_mem_starts (hids : (c.symbols.map (·.id)).Nodup) :
    ∀ r ∈ tops c ++ lateTops c, r ∈ c.symbols := by
  intro r hr
  rcases List.mem_append.1 hr with hr | hr
  · exact mem_symbols_of_mem_tops hids hr
  · exact (Catalog.mem_classes.1 (mem_classes_of_mem_lateTops hr)).1

/-! ### The forest covers the classes -/

/-- Every class lies below a start of the forest. -/
theorem exists_start_above (hids : (c.symbols.map (·.id)).Nodup) (hs : s ∈ c.classes) :
    ∃ r ∈ tops c ++ lateTops c, Below c s.id r.id := by
  have hclasses : ∀ u ∈ c.classes, u ∈ c.symbols := fun u hu => (Catalog.mem_classes.1 hu).1
  rcases exists_unreached_above hids hclasses hs with hreached | ⟨r, hr, hbelow⟩
  · obtain ⟨t, ht, hbelow⟩ := (mem_reached_iff hids).1 hreached
    exact ⟨t, List.mem_append_left _ ht, hbelow⟩
  · exact ⟨r, List.mem_append_right _ hr, hbelow⟩

/-- Listing the forest is a walk from its starts, which comes to an end on any parents. -/
theorem visits_forest (hids : (c.symbols.map (·.id)).Nodup) :
    Visits c 0 [] (tops c ++ lateTops c) (flatten (forest c)).reverse := by
  rw [forest_eq]
  exact visits_flatten (mem_symbols_of_mem_starts hids)

theorem nodup_flatten_forest (hids : (c.symbols.map (·.id)).Nodup) :
    ((flatten (forest c)).map (·.1.id)).Nodup := by
  rw [← List.nodup_reverse, ← List.map_reverse]
  exact (visits_forest hids).nodup .nil

/-- **An entry of the forest** is a start at the top, or a class right inside its parent. -/
theorem standsIn_forest_cases (hids : (c.symbols.map (·.id)).Nodup) {d : Nat}
    {around : List Symbol} (h : StandsIn (flatten (forest c)) s d around) :
    (s ∈ tops c ++ lateTops c ∧ d = 0 ∧ around = []) ∨
      ∃ p e rest, StandsIn (flatten (forest c)) p e rest ∧ s ∈ childrenOf c p.id ∧ d = e + 1 ∧
        around = p :: rest := by
  simp only [standsIn_iff_placed] at h ⊢
  exact (visits_forest hids).placed_cases_of_nil h

/-- What the forest lists is a class, or a start that is none. -/
theorem class_or_parent_of_mem (hids : (c.symbols.map (·.id)).Nodup) {d : Nat}
    (h : (s, d) ∈ flatten (forest c)) :
    s ∈ c.classes ∨
      (s ∈ c.symbols ∧ s.kind ≠ .classKind ∧ ∃ k ∈ c.classes, k.parent = some s.id) := by
  obtain ⟨around, hs⟩ := exists_standsIn h
  rcases standsIn_forest_cases hids hs with ⟨hstart, -, -⟩ | ⟨p, e, rest, -, hchild, -, -⟩
  · rcases List.mem_append.1 hstart with htop | hlate
    · exact ((mem_tops_iff hids).1 htop).imp_left And.left
    · exact Or.inl (mem_classes_of_mem_lateTops hlate)
  · exact Or.inl (mem_childrenOf.1 hchild).1

theorem mem_symbols_of_mem_forest (hids : (c.symbols.map (·.id)).Nodup) {d : Nat}
    (h : (s, d) ∈ flatten (forest c)) : s ∈ c.symbols := by
  rcases class_or_parent_of_mem hids h with hs | ⟨hs, -, -⟩
  · exact (Catalog.mem_classes.1 hs).1
  · exact hs

/-- A symbol that lies below a start is listed.  The entry with its number is the symbol itself. -/
theorem exists_mem_forest (hids : (c.symbols.map (·.id)).Nodup) (hs : s ∈ c.symbols)
    (habove : ∃ r ∈ tops c ++ lateTops c, Below c s.id r.id) :
    ∃ d, (s, d) ∈ flatten (forest c) := by
  rw [← mem_ids_flatten_iff hids (mem_symbols_of_mem_starts hids), ← forest_eq] at habove
  obtain ⟨⟨u, d⟩, hu, hid⟩ := List.mem_map.1 habove
  rw [← Catalog.eq_of_id_eq hids (mem_symbols_of_mem_forest hids hu) hs hid]
  exact ⟨d, hu⟩

/-- **The forest lists every class once, every parent of a class that is no class once, and nothing
else**, whatever the parents of the classes are.  The list is where a walk from the starts of the
forest along the children ends. -/
theorem flatten_forest_covers (hids : (c.symbols.map (·.id)).Nodup) :
    Visits c 0 [] (tops c ++ lateTops c) (flatten (forest c)).reverse ∧
      ((flatten (forest c)).map (·.1.id)).Nodup ∧
      ∀ s, s ∈ (flatten (forest c)).map (·.1) ↔
        s ∈ c.classes ∨
          (s ∈ c.symbols ∧ s.kind ≠ .classKind ∧ ∃ k ∈ c.classes, k.parent = some s.id) := by
  refine ⟨visits_forest hids, nodup_flatten_forest hids, fun s => ⟨fun h => ?_, fun h => ?_⟩⟩
  · obtain ⟨⟨u, d⟩, hu, rfl⟩ := List.mem_map.1 h
    exact class_or_parent_of_mem hids hu
  · have hlisted : ∃ d, (s, d) ∈ flatten (forest c) := by
      rcases h with hs | hparent
      · exact exists_mem_forest hids (Catalog.mem_classes.1 hs).1 (exists_start_above hids hs)
      · have htop : s ∈ tops c := (mem_tops_iff hids).2 (Or.inr hparent)
        exact exists_mem_forest hids hparent.1 ⟨s, List.mem_append_left _ htop, .refl⟩
    obtain ⟨d, hd⟩ := hlisted
    exact List.mem_map.2 ⟨(s, d), hd, rfl⟩

/-- Parents of every sort: none, a class, a symbol that is no class, an absent one, the class
itself, and a cycle of two with a class below it that comes first. -/
theorem flatten_forest_covers_mixed :
    let symbol (id : Nat) (parent : Option Nat) (body : Body) : Symbol :=
      { id, name := [], file := 0, firstLine := 1, lastLine := 1, parent, body }
    let cls (id : Nat) (parent : Option Nat) : Symbol := symbol id parent (.classBody [] [])
    let c : Catalog :=
      { symbols := [cls 0 none, cls 1 (some 0), symbol 2 (some 3) .unknown, cls 3 (some 2),
          cls 4 (some 9), cls 5 (some 5), cls 6 (some 7), cls 7 (some 8), cls 8 (some 7)] }
    (c.symbols.map (·.id)).Nodup ∧
      (flatten (forest c)).map (fun e => (e.1.id, e.2)) =
        [(0, 0), (1, 1), (2, 0), (3, 1), (4, 0), (5, 0), (6, 0), (7, 0), (8, 1)] ∧
      Visits c 0 [] (tops c ++ lateTops c) (flatten (forest c)).reverse ∧
      ((flatten (forest c)).map (·.1.id)).Nodup ∧
      ∀ s, s ∈ (flatten (forest c)).map (·.1) ↔
        s ∈ c.classes ∨
          (s ∈ c.symbols ∧ s.kind ≠ .classKind ∧ ∃ k ∈ c.classes, k.parent = some s.id) := by
  intro symbol cls c
  have hids : (c.symbols.map (·.id)).Nodup := by decide
  exact ⟨hids, by decide +kernel, flatten_forest_covers hids⟩

end LuaAtlas.Lineage
