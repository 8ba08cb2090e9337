import LuaAtlas.Proofs.Catalog.Declared
import LuaAtlas.Proofs.Lineage.Forest

/-!
# Where a class stands in the forest

A class stands right inside its parent unless it is a start of the forest, and then it stands at the
top.  From this the two cases follow.

Where going up meets no cycle, the starts are topmost, so what a class stands inside of is its whole
line of parents, which are its ancestors (`standsIn_ancestors`).

Where going up meets a cycle, the starts are the classes with a lower number than all other classes
above them (`mem_lateTops_iff`).  On a cycle this is the first of its classes.  Below a cycle it
should not happen, but it does: numbers are given in the order in which names occur, and a name may
occur before its parent does (`Catalog.class_cut_off_its_cycle`).
-/

namespace LuaAtlas

namespace Lineage

open LuaAtlas.Tree

variable {c : Catalog} {s : Symbol} {d : Nat} {around symbols : List Symbol} {reached : List Nat}

theorem exists_standsIn_forest (hids : (c.symbols.map (·.id)).Nodup) (hs : s ∈ c.classes) :
    ∃ d around, StandsIn (flatten (forest c)) s d around := by
  obtain ⟨d, hd⟩ :=
    exists_mem_forest hids (Catalog.mem_classes.1 hs).1 (exists_start_above hids hs)
  exact ⟨d, exists_standsIn hd⟩

theorem get?_of_standsIn (hids : (c.symbols.map (·.id)).Nodup)
    (h : StandsIn (flatten (forest c)) s d around) : c.get? s.id = some s :=
  Catalog.get?_of_mem hids (mem_symbols_of_mem_forest hids h.mem)

/-! ### Without a cycle -/

/-- Where going up meets no cycle, a symbol stands inside of its whole line. -/
theorem wholeLine_of_standsIn (hids : (c.symbols.map (·.id)).Nodup)
    (h : StandsIn (flatten (forest c)) s d around) :
    ¬ MeetsCycle c s.id → d = around.length ∧ WholeLine c s.id around := by
  refine (visits_forest hids).placed_induction
    (motive := fun s d around => ¬ MeetsCycle c s.id → d = around.length ∧ WholeLine c s.id around)
    (fun r hr hcycle => ?_) (fun p e rest hp ih k hk hcycle => ?_) (standsIn_iff_placed.1 h)
  · refine ⟨rfl, .top ?_⟩
    rcases List.mem_append.1 hr with htop | hlate
    · exact topmost_of_mem_tops hids htop
    · exact absurd (meetsCycle_of_mem_lateTops hids hlate) hcycle
  · have hnames := names_of_mem_childrenOf hids hk
    obtain ⟨rfl, hline⟩ := ih fun h => hcycle (Below.meetsCycle (.single hnames) h)
    exact ⟨rfl, .up hnames (get?_of_standsIn hids (standsIn_iff_placed.2 hp)) hline⟩

/-- **The forest agrees with the ancestors.**  A class from which going up meets no cycle stands as
deep as it has ancestors, and these are what it stands inside of, the innermost first. -/
theorem standsIn_ancestors (hids : (c.symbols.map (·.id)).Nodup) (hs : s ∈ c.classes)
    (hcycle : ¬ MeetsCycle c s.id) :
    StandsIn (flatten (forest c)) s (ancestors c s.id).length (ancestors c s.id) := by
  obtain ⟨d, around, hstands⟩ := exists_standsIn_forest hids hs
  obtain ⟨rfl, hline⟩ := wholeLine_of_standsIn hids hstands hcycle
  rw [← hline.unique (wholeLine_ancestors hids hcycle)]
  exact hstands

/-- A class under a class under a symbol that is no class, next to a cycle. -/
theorem standsIn_ancestors_beside_cycle :
    let symbol (id parent : Nat) (body : Body) : Symbol :=
      { id, name := [], file := 0, firstLine := 1, lastLine := 1, parent := some parent, body }
    let cls (id parent : Nat) : Symbol := symbol id parent (.classBody [] [])
    let c : Catalog :=
      { symbols := [cls 0 1, cls 1 2, symbol 2 0 .unknown, cls 3 4, cls 4 3] }
    (c.symbols.map (·.id)).Nodup ∧ cls 0 1 ∈ c.classes ∧ ¬ MeetsCycle c 0 ∧
      (ancestors c 0).map (·.id) = [1, 2] ∧
      StandsIn (flatten (forest c)) (cls 0 1) (ancestors c 0).length (ancestors c 0) := by
  intro symbol cls c
  have hids : (c.symbols.map (·.id)).Nodup := by decide
  have hclass : cls 0 1 ∈ c.classes := Catalog.mem_classes.2 ⟨List.mem_cons_self, rfl⟩
  have htop : Topmost c 2 := by
    intro p hp
    rw [← parentOf?_eq_some_iff] at hp
    cases hp
  have hbelow : Below c 0 2 :=
    .head (b := 1) (by decide) (.single (by decide))
  have hcycle : ¬ MeetsCycle c 0 := htop.not_meetsCycle hbelow
  exact ⟨hids, hclass, hcycle, by decide +kernel, standsIn_ancestors hids hclass hcycle⟩

/-! ### With a cycle -/

/-- **A class stands right inside its parent**, one level deeper. -/
def UnderParent (c : Catalog) (s : Symbol) : Prop :=
  ∃ p depth around, s.parent = some p.id ∧ c.get? p.id = some p ∧
    StandsIn (flatten (forest c)) p depth around ∧
    StandsIn (flatten (forest c)) s (depth + 1) (p :: around)

theorem underParent_of_not_mem_starts (hids : (c.symbols.map (·.id)).Nodup) (hs : s ∈ c.classes)
    (hstart : s ∉ tops c ++ lateTops c) : UnderParent c s := by
  obtain ⟨d, around, hstands⟩ := exists_standsIn_forest hids hs
  rcases standsIn_forest_cases hids hstands with ⟨h, -, -⟩ | ⟨p, e, rest, hp, hchild, rfl, rfl⟩
  · exact absurd h hstart
  · exact ⟨p, e, rest, (mem_childrenOf.1 hchild).2, get?_of_standsIn hids hp, hp, hstands⟩

/-- A symbol at the top is not right inside its parent. -/
theorem not_underParent_of_standsIn_zero (hids : (c.symbols.map (·.id)).Nodup)
    (h : StandsIn (flatten (forest c)) s 0 around) : ¬ UnderParent c s := by
  rintro ⟨p, depth, outer, -, -, -, hstands⟩
  have he := List.inj_on_of_nodup_map (nodup_flatten_forest hids) h.mem hstands.mem rfl
  cases he

/-- Among symbols by increasing number, those that get a tree are not reached and lie below none
with a lower number. -/
theorem mem_unreached_iff (hids : (c.symbols.map (·.id)).Nodup)
    (hsymbols : ∀ s ∈ symbols, s ∈ c.symbols) (hsorted : symbols.Pairwise (·.id < ·.id))
    (hclosed : ∀ n m, Below c n m → m ∈ reached → n ∈ reached) :
    s ∈ unreached c reached symbols ↔
      s ∈ symbols ∧ s.id ∉ reached ∧ ∀ r ∈ symbols, Below c s.id r.id → s.id ≤ r.id := by
  induction symbols generalizing reached with
  | nil => simp [unreached]
  | cons t rest ih =>
    obtain ⟨ht, hrest⟩ := List.forall_mem_cons.1 hsymbols
    obtain ⟨hfirst, hsorted⟩ := List.pairwise_cons.1 hsorted
    have hbelow (n : Nat) := mem_ids_flatten_singleton (n := n) hids ht
    -- the first symbol has a lower number than the others, so none of these may lie below it
    have hleast (hs : s ∈ rest) : (∀ r ∈ t :: rest, Below c s.id r.id → s.id ≤ r.id) ↔
        ¬ Below c s.id t.id ∧ ∀ r ∈ rest, Below c s.id r.id → s.id ≤ r.id := by
      have hlt := hfirst s hs
      rw [List.forall_mem_cons]
      refine and_congr_left' ⟨fun h hb => ?_, fun h hb => absurd hb h⟩
      have hle := h hb
      omega
    rw [unreached]
    split
    · rename_i hreached
      rw [List.contains_iff_mem] at hreached
      rw [ih hrest hsorted hclosed]
      constructor
      · rintro ⟨hs, hnot, hl⟩
        have hfar : ¬ Below c s.id t.id := fun h => hnot (hclosed _ _ h hreached)
        exact ⟨List.mem_cons_of_mem _ hs, hnot, (hleast hs).2 ⟨hfar, hl⟩⟩
      · rintro ⟨hs, hnot, hl⟩
        rcases List.mem_cons.1 hs with rfl | hs
        · exact absurd hreached hnot
        · exact ⟨hs, hnot, ((hleast hs).1 hl).2⟩
    · rename_i hreached
      rw [List.contains_iff_mem] at hreached
      rw [List.mem_cons, ih hrest hsorted ?closed, List.mem_append, not_or, hbelow]
      case closed =>
        intro n m hnm hm
        rcases List.mem_append.1 hm with hm | hm
        · exact List.mem_append_left _ (hclosed n m hnm hm)
        · exact List.mem_append_right _ ((hbelow n).2 (hnm.trans ((hbelow m).1 hm)))
      constructor
      · rintro (rfl | ⟨hs, ⟨hnot, hfar⟩, hl⟩)
        · refine ⟨List.mem_cons_self, hreached, List.forall_mem_cons.2 ⟨fun _ => le_rfl, ?_⟩⟩
          exact fun r hr _ => (hfirst r hr).le
        · exact ⟨List.mem_cons_of_mem _ hs, hnot, (hleast hs).2 ⟨hfar, hl⟩⟩
      · rintro ⟨hs, hnot, hl⟩
        rcases List.mem_cons.1 hs with rfl | hs
        · exact Or.inl rfl
        · obtain ⟨hfar, hl⟩ := (hleast hs).1 hl
          exact Or.inr ⟨hs, ⟨hnot, hfar⟩, hl⟩

section Sorted

variable (hsorted : c.symbols.Pairwise (·.id < ·.id))

include hsorted

theorem nodup_ids_of_sorted : (c.symbols.map (·.id)).Nodup :=
  List.pairwise_map.2 (hsorted.imp Nat.ne_of_lt)

/-- **The late tops** are the classes from which going up meets a cycle and that have the lowest
number among the classes met. -/
theorem mem_lateTops_iff : s ∈ lateTops c ↔
    s ∈ c.classes ∧ MeetsCycle c s.id ∧ ∀ r ∈ c.classes, Below c s.id r.id → s.id ≤ r.id := by
  have hids := nodup_ids_of_sorted hsorted
  have hclasses : ∀ u ∈ c.classes, u ∈ c.symbols := fun u hu => (Catalog.mem_classes.1 hu).1
  rw [lateTops, mem_unreached_iff hids hclasses (hsorted.filter _) fun n m hnm hm => ?closed]
  case closed =>
    rw [mem_reached_iff hids] at hm ⊢
    obtain ⟨t, ht, hmt⟩ := hm
    exact ⟨t, ht, hnm.trans hmt⟩
  refine and_congr_right fun hs => and_congr_left fun _ => ?_
  rw [mem_reached_iff hids, exists_top_above_iff hids hs, not_not]

/-- A late top stands at the top: it lies below no top, since it meets a cycle, and below no earlier
late top, since these have lower numbers. -/
theorem standsIn_lateTop (hs : s ∈ lateTops c) : StandsIn (flatten (forest c)) s 0 [] := by
  have hids := nodup_ids_of_sorted hsorted
  obtain ⟨hclass, hcycle, hleast⟩ := (mem_lateTops_iff hsorted).1 hs
  obtain ⟨before, after, hlate⟩ := List.append_of_mem hs
  have hordered : (lateTops c).Pairwise (·.id < ·.id) :=
    (hsorted.filter _).sublist unreached_sublist
  have hvisits := visits_forest hids
  rw [hlate, List.pairwise_append] at hordered
  rw [hlate, ← List.append_assoc] at hvisits
  refine standsIn_iff_placed.2 (hvisits.placed_start hids fun r hr hbelow => ?_)
  rcases List.mem_append.1 hr with htop | hearlier
  · exact (exists_top_above_iff hids hclass).1 ⟨r, htop, hbelow⟩ hcycle
  · have hlt := hordered.2.2 r hearlier s List.mem_cons_self
    have hr : r ∈ lateTops c := hlate ▸ List.mem_append_left _ hearlier
    have hle := hleast r (mem_classes_of_mem_lateTops hr) hbelow
    omega

/-- A class from which going up meets a cycle stands right inside its parent if a class with a lower
number is met. -/
theorem underParent_of_lower (hs : s ∈ c.classes) (hcycle : MeetsCycle c s.id)
    (hlower : ∃ r ∈ c.classes, Below c s.id r.id ∧ r.id < s.id) : UnderParent c s := by
  have hids := nodup_ids_of_sorted hsorted
  refine underParent_of_not_mem_starts hids hs fun hstart => ?_
  rcases List.mem_append.1 hstart with htop | hlate
  · exact (exists_top_above_iff hids hs).1 ⟨s, htop, .refl⟩ hcycle
  · obtain ⟨r, hr, hbelow, hlt⟩ := hlower
    have hle := ((mem_lateTops_iff hsorted).1 hlate).2.2 r hr hbelow
    omega

end Sorted

end Lineage

namespace Catalog

open LuaAtlas.Tree LuaAtlas.Lineage

theorem sorted_ofTexts (v : Vocabulary) (texts : List Text) :
    (ofTexts v texts).symbols.Pairwise (·.id < ·.id) :=
  (wellFormed_draftOf v (texts.map Text.lines)).sorted

/-- **Classes whose parents run into a cycle.**  Such a class stands right inside its parent exactly
if it lies below a class with a lower number.  The forest starts at the tops and, behind them, at
the classes of this sort that do not stand inside their parents; these stand at the top. -/
theorem ofTexts_underParent_iff (v : Vocabulary) (texts : List Text) :
    let c := ofTexts v texts
    (∀ s ∈ c.classes, MeetsCycle c s.id →
      (UnderParent c s ↔ ∃ r ∈ c.classes, Below c s.id r.id ∧ r.id < s.id)) ∧
    forest c = (tops c ++ lateTops c).map (treeOf c) ∧
    (∀ s, s ∈ lateTops c ↔ s ∈ c.classes ∧ MeetsCycle c s.id ∧ ¬ UnderParent c s) ∧
    ∀ s ∈ lateTops c, StandsIn (flatten (forest c)) s 0 [] := by
  intro c
  have hsorted := sorted_ofTexts v texts
  have hids := nodup_ids_of_sorted hsorted
  have hlate {s : Symbol} (hs : s ∈ lateTops c) : ¬ UnderParent c s :=
    not_underParent_of_standsIn_zero hids (standsIn_lateTop hsorted hs)
  have hiff : ∀ s ∈ c.classes, MeetsCycle c s.id →
      (UnderParent c s ↔ ∃ r ∈ c.classes, Below c s.id r.id ∧ r.id < s.id) := by
    intro s hs hcycle
    refine ⟨fun hunder => ?_, underParent_of_lower hsorted hs hcycle⟩
    by_contra hlower
    refine hlate ((mem_lateTops_iff hsorted).2 ⟨hs, hcycle, fun r hr hbelow => ?_⟩) hunder
    exact not_lt.1 fun hlt => hlower ⟨r, hr, hbelow, hlt⟩
  refine ⟨hiff, forest_eq c, fun s => ⟨fun hs => ?_, ?_⟩, fun s hs => standsIn_lateTop hsorted hs⟩
  · exact ⟨mem_classes_of_mem_lateTops hs, meetsCycle_of_mem_lateTops hids hs, hlate hs⟩
  · rintro ⟨hs, hcycle, hunder⟩
    refine (mem_lateTops_iff hsorted).2 ⟨hs, hcycle, fun r hr hbelow => ?_⟩
    exact not_lt.1 fun hlt => hunder ((hiff s hs hcycle).2 ⟨r, hr, hbelow, hlt⟩)

/-- A class below a cycle whose classes come first. -/
theorem ofTexts_underParent_iff_declared_last :
    let c := ofTexts .standard ["---@class A : B\n---@class B : A\n---@class D : A".toList]
    ∃ s ∈ c.classes, ¬ OnCycle c s.id ∧ MeetsCycle c s.id ∧
      (∃ r ∈ c.classes, Below c s.id r.id ∧ r.id < s.id) ∧ UnderParent c s := by
  intro c
  have hsorted : c.symbols.Pairwise (·.id < ·.id) := sorted_ofTexts .standard _
  have hparents : c.classes.map (fun s => (s.id, s.parent)) =
      [(0, some 1), (1, some 0), (2, some 1)] := by decide +kernel
  have hnames (i p : Nat) : Names c i p ↔ (i, some p) ∈ [(0, some 1), (1, some 0), (2, some 1)] :=
    hparents ▸ names_iff_mem (nodup_ids_of_sorted hsorted)
  have h21 : Names c 2 1 := (hnames 2 1).2 (by decide)
  have h10 : Names c 1 0 := (hnames 1 0).2 (by decide)
  have h01 : Names c 0 1 := (hnames 0 1).2 (by decide)
  have halone : ¬ OnCycle c 2 := by
    intro h
    obtain ⟨z, -, hz⟩ := Relation.TransGen.tail'_iff.1 h
    simp [hnames] at hz
  obtain ⟨s, hs, hid⟩ := exists_mem_childrenOf h21
  obtain ⟨r, hr, hrid⟩ := exists_mem_childrenOf h10
  have hs := (mem_childrenOf.1 hs).1
  have hcycle : MeetsCycle c s.id := hid ▸ ⟨1, .single h21, .tail (.single h10) h01⟩
  have hlower : ∃ r ∈ c.classes, Below c s.id r.id ∧ r.id < s.id :=
    ⟨r, (mem_childrenOf.1 hr).1, hid ▸ hrid ▸ .single h21, by omega⟩
  have hiff := (ofTexts_underParent_iff .standard _).1 s hs hcycle
  exact ⟨s, hs, hid ▸ halone, hcycle, hlower, hiff.2 hlower⟩

/-- A class below a cycle whose name is met before the cycle gets a tree of its own, away from its
parent. -/
theorem class_cut_off_its_cycle :
    let c := ofTexts .standard
      ["---@alias T D\n---@class D : A\n---@class A : B\n---@class B : A".toList]
    ∃ s ∈ c.classes, ¬ OnCycle c s.id ∧ MeetsCycle c s.id ∧ s ∈ lateTops c ∧
      ¬ UnderParent c s := by
  intro c
  have hsorted : c.symbols.Pairwise (·.id < ·.id) := sorted_ofTexts .standard _
  have hids := nodup_ids_of_sorted hsorted
  have hparents : c.classes.map (fun s => (s.id, s.parent)) =
      [(1, some 2), (2, some 3), (3, some 2)] := by decide +kernel
  have hnames (i p : Nat) : Names c i p ↔ (i, some p) ∈ [(1, some 2), (2, some 3), (3, some 2)] :=
    hparents ▸ names_iff_mem hids
  have h12 : Names c 1 2 := (hnames 1 2).2 (by decide)
  have h23 : Names c 2 3 := (hnames 2 3).2 (by decide)
  have h32 : Names c 3 2 := (hnames 3 2).2 (by decide)
  have halone : ¬ OnCycle c 1 := by
    intro h
    obtain ⟨z, -, hz⟩ := Relation.TransGen.tail'_iff.1 h
    simp [hnames] at hz
  have hleast : ∀ r ∈ c.classes, 1 ≤ r.id := by
    intro r hr
    have hmem : (r.id, r.parent) ∈ c.classes.map (fun s => (s.id, s.parent)) :=
      List.mem_map.2 ⟨r, hr, rfl⟩
    simp only [hparents, List.mem_cons, Prod.mk.injEq, List.not_mem_nil, or_false] at hmem
    rcases hmem with ⟨hid, -⟩ | ⟨hid, -⟩ | ⟨hid, -⟩ <;> omega
  obtain ⟨s, hs, hid⟩ := exists_mem_childrenOf h12
  have hs := (mem_childrenOf.1 hs).1
  have hcycle : MeetsCycle c s.id := hid ▸ ⟨2, .single h12, .tail (.single h23) h32⟩
  have hlate : s ∈ lateTops c :=
    (mem_lateTops_iff hsorted).2 ⟨hs, hcycle, fun r hr _ => hid ▸ hleast r hr⟩
  exact ⟨s, hs, hid ▸ halone, hcycle, hlate,
    not_underParent_of_standsIn_zero hids (standsIn_lateTop hsorted hlate)⟩

end Catalog

end LuaAtlas
