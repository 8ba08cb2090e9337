import LuaAtlas.Lineage
import Mathlib.Data.List.Chain
import Mathlib.Data.List.Nodup
import Mathlib.Logic.Relation

/-!
# Going up

`Lineage.Names c id parent` says that the class with the number `id` gives `parent` as its parent.
Nothing is assumed about these parents: they may be absent from the catalogue, be no classes, or
lead back to where they came from.

`Lineage.Climbs` says what going up from a number is, with the numbers that were met before: a
parent is taken if it was not met and is in the catalogue.  `climbs_ancestors` says that
`Lineage.ancestors` goes up in this way, and what a chain of ancestors looks like follows by
induction on the climb (`isLine_ancestors`).

The chain is also the key to cycles.  A climb ends only where it has to, so it comes to a topmost
number or the last parent was met before, which closes a cycle (`meetsCycle_or_topmost`).  The two
exclude each other, since the numbers above a number stand in one line (`Topmost.not_meetsCycle`).
Where there is no cycle, the ancestors are the whole line up to a topmost number
(`wholeLine_ancestors`).
-/

namespace LuaAtlas

namespace Catalog

variable {c : Catalog} {id : Nat} {s u : Symbol}

theorem mem_classes : s ∈ c.classes ↔ s ∈ c.symbols ∧ s.kind = .classKind := by
  rw [classes, ofKind, List.mem_filter, beq_iff_eq]

theorem mem_symbols_of_get? (h : c.get? id = some s) : s ∈ c.symbols ∧ s.id = id := by
  have hid := List.find?_some h
  exact ⟨List.mem_of_find?_eq_some h, by simpa using hid⟩

theorem eq_of_id_eq (hids : (c.symbols.map (·.id)).Nodup) (hs : s ∈ c.symbols)
    (hu : u ∈ c.symbols) (he : s.id = u.id) : s = u :=
  List.inj_on_of_nodup_map hids hs hu he

/-- A symbol is found under its number, if no other symbol has the number. -/
theorem get?_of_mem (hids : (c.symbols.map (·.id)).Nodup) (hs : s ∈ c.symbols) :
    c.get? s.id = some s := by
  cases hget : c.get? s.id with
  | none => exact absurd (List.find?_eq_none.1 hget s hs) (by simp)
  | some u =>
    obtain ⟨hu, he⟩ := mem_symbols_of_get? hget
    rw [eq_of_id_eq hids hu hs he]

end Catalog

namespace Lineage

variable {c : Catalog} {met : List Nat} {id x y p q : Nat} {s u : Symbol} {chain : List Symbol}

/-! ### Naming a parent -/

/-- The class with one number gives the other number as its parent. -/
def Names (c : Catalog) (id parent : Nat) : Prop :=
  ∃ s, c.get? id = some s ∧ s.kind = .classKind ∧ s.parent = some parent

theorem parentOf?_eq_some_iff : parentOf? c id = some p ↔ Names c id p := by
  unfold parentOf? Names
  rw [Option.bind_eq_some_iff]
  simp only [Option.ite_none_right_eq_some]

instance (c : Catalog) (id parent : Nat) : Decidable (Names c id parent) :=
  decidable_of_iff _ parentOf?_eq_some_iff

/-- A number names one parent at most. -/
theorem names_rightUnique : Relator.RightUnique (Names c) := by
  intro id p q hp hq
  rw [← parentOf?_eq_some_iff] at hp hq
  exact Option.some.inj (hp.symm.trans hq)

theorem names_of_parent (hids : (c.symbols.map (·.id)).Nodup) (hs : s ∈ c.classes)
    (hp : s.parent = some p) : Names c s.id p := by
  obtain ⟨hmem, hkind⟩ := Catalog.mem_classes.1 hs
  exact ⟨s, Catalog.get?_of_mem hids hmem, hkind, hp⟩

/-- Who names whom is read off the classes. -/
theorem names_iff_mem (hids : (c.symbols.map (·.id)).Nodup) :
    Names c id p ↔ (id, some p) ∈ c.classes.map fun s => (s.id, s.parent) := by
  rw [List.mem_map]
  constructor
  · rintro ⟨s, hget, hkind, hparent⟩
    obtain ⟨hs, rfl⟩ := Catalog.mem_symbols_of_get? hget
    exact ⟨s, Catalog.mem_classes.2 ⟨hs, hkind⟩, by rw [hparent]⟩
  · rintro ⟨s, hs, he⟩
    obtain ⟨rfl, hparent⟩ := Prod.mk.inj he
    exact names_of_parent hids hs hparent

theorem mem_ids_iff : id ∈ ids c ↔ ∃ s, c.get? id = some s := by
  unfold ids
  rw [← Option.isSome_iff_exists, Catalog.get?, List.find?_isSome, List.mem_map]
  simp only [beq_iff_eq]

/-! ### One climb -/

/-- **Going up from a number.**  A parent is taken if it was not met before and is in the
catalogue, and going up ends where there is no such parent. -/
inductive Climbs (c : Catalog) : List Nat → Nat → List Symbol → Prop
  | stop {met : List Nat} {id : Nat} (h : ∀ p, Names c id p → p ∈ met ∨ c.get? p = none) :
      Climbs c met id []
  | step {met : List Nat} {id p : Nat} {s : Symbol} {chain : List Symbol} (hnames : Names c id p)
      (hmet : p ∉ met) (hget : c.get? p = some s) (habove : Climbs c (p :: met) p chain) :
      Climbs c met id (s :: chain)

theorem climbs_climb {unmet : List Nat} (hnodup : unmet.Nodup)
    (hunmet : ∀ n, n ∈ unmet ↔ n ∈ ids c ∧ n ∉ met) : Climbs c met id (climb c unmet id) := by
  fun_induction climb c unmet id generalizing met with
  | case1 unmet id hnone =>
    refine .stop fun p hp => ?_
    rw [← parentOf?_eq_some_iff, hnone] at hp
    cases hp
  | case2 unmet id parent hparent hmem s hget ih =>
    have hnot := ((hunmet parent).1 hmem).2
    refine .step (parentOf?_eq_some_iff.1 hparent) hnot hget (ih (hnodup.erase parent) ?_)
    intro n
    rw [hnodup.mem_erase_iff, hunmet, List.mem_cons, not_or]
    tauto
  | case3 unmet id parent hparent hmem hget =>
    refine .stop fun p hp => Or.inr ?_
    rw [names_rightUnique hp (parentOf?_eq_some_iff.1 hparent)]
    exact hget
  | case4 unmet id parent hparent hmem =>
    refine .stop fun p hp => ?_
    rw [names_rightUnique hp (parentOf?_eq_some_iff.1 hparent)]
    by_cases hmet : parent ∈ met
    · exact Or.inl hmet
    · right
      rw [hunmet, mem_ids_iff] at hmem
      exact Option.eq_none_iff_forall_ne_some.2 fun s hget => hmem ⟨⟨s, hget⟩, hmet⟩

theorem climbs_ancestors (hids : (c.symbols.map (·.id)).Nodup) (x : Nat) :
    Climbs c [x] x (ancestors c x) := by
  have hnodup : (ids c).Nodup := hids
  refine climbs_climb (hnodup.erase x) fun n => ?_
  rw [hnodup.mem_erase_iff, List.mem_singleton]
  exact and_comm

/-- What is taken was not met before, and is taken once. -/
theorem Climbs.nodup (h : Climbs c met x chain) :
    (∀ s ∈ chain, s.id ∉ met) ∧ (chain.map (·.id)).Nodup := by
  induction h with
  | stop => exact ⟨nofun, .nil⟩
  | @step met id p s chain _ hmet hget _ ih =>
    obtain ⟨hfresh, hnodup⟩ := ih
    obtain ⟨-, rfl⟩ := Catalog.mem_symbols_of_get? hget
    constructor
    · intro u hu
      rcases List.mem_cons.1 hu with rfl | hu
      · exact hmet
      · exact fun h => hfresh u hu (List.mem_cons_of_mem _ h)
    · rw [List.map_cons, List.nodup_cons]
      refine ⟨fun hmem => ?_, hnodup⟩
      obtain ⟨u, hu, he⟩ := List.mem_map.1 hmem
      exact hfresh u hu (he ▸ List.mem_cons_self)

theorem Climbs.get?_eq (h : Climbs c met x chain) (hs : s ∈ chain) : c.get? s.id = some s := by
  induction h with
  | stop => cases hs
  | step _ _ hget _ ih =>
    rcases List.mem_cons.1 hs with rfl | hs
    · rw [(Catalog.mem_symbols_of_get? hget).2]
      exact hget
    · exact ih hs

theorem Climbs.isChain (h : Climbs c met x chain) :
    (x :: chain.map (·.id)).IsChain (Names c) := by
  induction h with
  | stop => exact .singleton _
  | step hnames _ hget _ ih =>
    obtain ⟨-, rfl⟩ := Catalog.mem_symbols_of_get? hget
    exact List.isChain_cons_cons.2 ⟨hnames, ih⟩

/-- **A climb ends only where it has to**: a parent that the last number names was met, or is not in
the catalogue. -/
theorem Climbs.last (h : Climbs c met x chain) :
    ∀ p, Names c ((chain.map (·.id)).getLastD x) p →
      p ∈ met ∨ p ∈ chain.map (·.id) ∨ c.get? p = none := by
  induction h with
  | stop hstop => exact fun p hp => (hstop p hp).imp_right Or.inr
  | step _ _ hget _ ih =>
    obtain ⟨-, rfl⟩ := Catalog.mem_symbols_of_get? hget
    intro p hp
    rw [List.map_cons, List.getLastD_cons] at hp
    rw [List.map_cons, List.mem_cons]
    rcases ih p hp with hmet | hchain | hnone
    · exact (List.mem_cons.1 hmet).elim (fun he => Or.inr (Or.inl (Or.inl he))) Or.inl
    · exact Or.inr (Or.inl (Or.inr hchain))
    · exact Or.inr (Or.inr hnone)

/-- **What the ancestors of a number are**: the longest chain of parents that meets nothing
twice. -/
structure IsLine (c : Catalog) (x : Nat) (chain : List Symbol) : Prop where
  /-- The ancestors are distinct and none of them has the number itself. -/
  nodup : (x :: chain.map (·.id)).Nodup
  /-- Each of them has the number that the one before it names as its parent, the first one the
  number that the start names. -/
  linked : (x :: chain.map (·.id)).IsChain (Names c)
  /-- They are the symbols with these numbers. -/
  found : ∀ s ∈ chain, c.get? s.id = some s
  /-- The last symbol, the one at the start if there are no ancestors, is absent, is no class, has
  no parent, or has a parent that is absent or was met before. -/
  maximal : let last := (chain.map (·.id)).getLastD x
    c.get? last = none ∨ ∃ s, c.get? last = some s ∧
      (s.kind ≠ .classKind ∨ s.parent = none ∨ ∃ p, s.parent = some p ∧
        (c.get? p = none ∨ p = x ∨ p ∈ chain.map (·.id)))

/-- **Ancestors are sound and complete on any parents.** -/
theorem isLine_ancestors (hids : (c.symbols.map (·.id)).Nodup) (x : Nat) :
    IsLine c x (ancestors c x) := by
  have hclimbs := climbs_ancestors hids x
  obtain ⟨hfresh, hnodup⟩ := hclimbs.nodup
  refine ⟨List.nodup_cons.2 ⟨fun hmem => ?_, hnodup⟩, hclimbs.isChain,
    fun s hs => hclimbs.get?_eq hs, ?_⟩
  · obtain ⟨s, hs, he⟩ := List.mem_map.1 hmem
    exact hfresh s hs (List.mem_singleton.2 he)
  · intro last
    cases hget : c.get? last with
    | none => exact Or.inl rfl
    | some s =>
      refine Or.inr ⟨s, rfl, ?_⟩
      by_cases hkind : s.kind = .classKind
      · cases hparent : s.parent with
        | none => exact Or.inr (Or.inl rfl)
        | some p =>
          refine Or.inr (Or.inr ⟨p, rfl, ?_⟩)
          rcases hclimbs.last p ⟨s, hget, hkind, hparent⟩ with hmet | hchain | hnone
          · exact Or.inr (Or.inl (List.mem_singleton.1 hmet))
          · exact Or.inr (Or.inr hchain)
          · exact Or.inl hnone
      · exact Or.inl hkind

/-- A class whose parents run into a cycle that does not lead back to it. -/
theorem isLine_ancestors_below_cycle :
    let cls (id parent : Nat) : Symbol :=
      { id, name := [], file := 0, firstLine := 1, lastLine := 1, parent := some parent
        body := .classBody [] [] }
    let c : Catalog := { symbols := [cls 0 1, cls 1 2, cls 2 1] }
    (c.symbols.map (·.id)).Nodup ∧ (ancestors c 0).map (·.id) = [1, 2] ∧
      IsLine c 0 (ancestors c 0) := by
  intro cls c
  have hids : (c.symbols.map (·.id)).Nodup := by decide
  exact ⟨hids, by decide +kernel, isLine_ancestors hids 0⟩

/-! ### Cycles -/

/-- One number is the other or lies below it. -/
abbrev Below (c : Catalog) : Nat → Nat → Prop := Relation.ReflTransGen (Names c)

/-- A number lies on a cycle of parents. -/
def OnCycle (c : Catalog) (x : Nat) : Prop := Relation.TransGen (Names c) x x

/-- Going up from a number runs into a cycle. -/
def MeetsCycle (c : Catalog) (x : Nat) : Prop := ∃ y, Below c x y ∧ OnCycle c y

/-- A number names no parent that is in the catalogue. -/
def Topmost (c : Catalog) (x : Nat) : Prop := ∀ p, Names c x p → c.get? p = none

theorem Below.meetsCycle (h : Below c x y) (hy : MeetsCycle c y) : MeetsCycle c x := by
  obtain ⟨z, hz, hcycle⟩ := hy
  exact ⟨z, h.trans hz, hcycle⟩

/-- The parent of a number on a cycle lies on it too. -/
theorem OnCycle.exists_names (h : OnCycle c x) : ∃ p, Names c x p ∧ OnCycle c p := by
  obtain ⟨p, hp, hback⟩ := Relation.TransGen.head'_iff.1 h
  exact ⟨p, hp, Relation.TransGen.tail' hback hp⟩

theorem OnCycle.of_below (h : OnCycle c x) (hxy : Below c x y) : OnCycle c y := by
  induction hxy with
  | refl => exact h
  | tail _ hnames ih =>
    obtain ⟨p, hp, hcycle⟩ := ih.exists_names
    rw [names_rightUnique hnames hp]
    exact hcycle

theorem OnCycle.not_topmost (h : OnCycle c x) : ¬ Topmost c x := by
  intro htop
  obtain ⟨p, hp, hcycle⟩ := h.exists_names
  obtain ⟨q, ⟨s, hget, -⟩, -⟩ := hcycle.exists_names
  rw [htop p hp] at hget
  cases hget

/-- Nothing in the catalogue lies above a topmost number. -/
theorem Topmost.eq_of_below (h : Topmost c x) (hxy : Below c x y) (hy : c.get? y = some s) :
    y = x := by
  induction hxy generalizing s with
  | refl => rfl
  | tail _ hnames ih =>
    obtain ⟨u, hu, hkind, hparent⟩ := hnames
    have he := ih hu
    subst he
    rw [h _ ⟨u, hu, hkind, hparent⟩] at hy
    cases hy

/-- Below a topmost number no cycle is met: the numbers above a number stand in one line. -/
theorem Topmost.not_meetsCycle (h : Topmost c y) (hxy : Below c x y) : ¬ MeetsCycle c x := by
  rintro ⟨z, hxz, hcycle⟩
  rcases Relation.ReflTransGen.total_of_right_unique names_rightUnique hxy hxz with hyz | hzy
  · obtain ⟨p, ⟨s, hget, -⟩, -⟩ := hcycle.exists_names
    rw [h.eq_of_below hyz hget] at hcycle
    exact hcycle.not_topmost h
  · exact (hcycle.of_below hzy).not_topmost h

theorem below_of_mem_isChain {l : List Nat} (h : (x :: l).IsChain (Names c)) (hp : p ∈ x :: l) :
    Below c x p ∧ Below c p (l.getLastD x) := by
  induction l generalizing x p with
  | nil =>
    rw [List.mem_singleton.1 hp]
    exact ⟨.refl, .refl⟩
  | cons y l ih =>
    obtain ⟨hxy, hl⟩ := List.isChain_cons_cons.1 h
    rw [List.getLastD_cons]
    rcases List.mem_cons.1 hp with rfl | hp
    · exact ⟨.refl, .head hxy (ih hl List.mem_cons_self).2⟩
    · obtain ⟨hbelow, hlast⟩ := ih hl hp
      exact ⟨.head hxy hbelow, hlast⟩

/-- **Going up ends at a topmost number, or runs into a cycle.**  If the last ancestor is not
topmost, its parent is in the catalogue, so it was met before. -/
theorem meetsCycle_or_topmost (hids : (c.symbols.map (·.id)).Nodup) (hx : c.get? x = some s) :
    MeetsCycle c x ∨ ∃ y u, Below c x y ∧ c.get? y = some u ∧ Topmost c y := by
  have hclimbs := climbs_ancestors hids x
  let numbers := (ancestors c x).map (·.id)
  let last := numbers.getLastD x
  have hmem : last ∈ x :: numbers := List.getLastD_mem_cons
  by_cases htop : Topmost c last
  · right
    have hget : ∃ u, c.get? last = some u := by
      rcases List.mem_cons.1 hmem with he | hmem
      · exact ⟨s, he ▸ hx⟩
      · obtain ⟨u, hu, he⟩ := List.mem_map.1 hmem
        exact ⟨u, he ▸ hclimbs.get?_eq hu⟩
    obtain ⟨u, hu⟩ := hget
    exact ⟨last, u, (below_of_mem_isChain hclimbs.isChain hmem).1, hu, htop⟩
  · left
    simp only [Topmost, not_forall] at htop
    obtain ⟨p, hnames, hpresent⟩ := htop
    have hp : p ∈ x :: numbers := by
      rcases hclimbs.last p hnames with hmet | hchain | hnone
      · exact List.mem_cons.2 (Or.inl (List.mem_singleton.1 hmet))
      · exact List.mem_cons_of_mem _ hchain
      · exact absurd hnone hpresent
    obtain ⟨hbelow, hlast⟩ := below_of_mem_isChain hclimbs.isChain hp
    exact ⟨p, hbelow, Relation.TransGen.tail' hlast hnames⟩

/-! ### The whole line -/

/-- The symbols above a number up to a topmost one. -/
inductive WholeLine (c : Catalog) : Nat → List Symbol → Prop
  | top {x : Nat} (h : Topmost c x) : WholeLine c x []
  | up {x p : Nat} {s : Symbol} {chain : List Symbol} (hnames : Names c x p)
      (hget : c.get? p = some s) (habove : WholeLine c p chain) : WholeLine c x (s :: chain)

theorem WholeLine.unique {chain' : List Symbol} (h : WholeLine c x chain)
    (h' : WholeLine c x chain') : chain = chain' := by
  induction h generalizing chain' with
  | top htop =>
    cases h' with
    | top => rfl
    | up hnames hget _ =>
      rw [htop _ hnames] at hget
      cases hget
  | up hnames hget _ ih =>
    cases h' with
    | top htop =>
      rw [htop _ hnames] at hget
      cases hget
    | up hnames' hget' habove' =>
      obtain rfl := names_rightUnique hnames hnames'
      rw [Option.some.inj (hget.symm.trans hget'), ih habove']

/-- A climb that meets no cycle ends at a topmost number: the numbers that were met lie below, so
none of them can be a parent. -/
theorem Climbs.wholeLine (h : Climbs c met x chain) (hmet : ∀ m ∈ met, Below c m x)
    (hx : ¬ MeetsCycle c x) : WholeLine c x chain := by
  induction h with
  | @stop met x hstop =>
    refine .top fun p hp => (hstop p hp).resolve_left fun hmem => hx ?_
    exact ⟨p, .single hp, .tail' (hmet p hmem) hp⟩
  | @step met x p s chain hnames _ hget _ ih =>
    refine .up hnames hget (ih (fun m hm => ?_) fun hp => hx (Below.meetsCycle (.single hnames) hp))
    rcases List.mem_cons.1 hm with rfl | hm
    · exact .refl
    · exact (hmet m hm).tail hnames

theorem wholeLine_ancestors (hids : (c.symbols.map (·.id)).Nodup) (hx : ¬ MeetsCycle c x) :
    WholeLine c x (ancestors c x) := by
  refine (climbs_ancestors hids x).wholeLine (fun m hm => ?_) hx
  rw [List.mem_singleton.1 hm]

end Lineage

end LuaAtlas
