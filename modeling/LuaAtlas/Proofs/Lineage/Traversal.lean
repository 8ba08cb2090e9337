import LuaAtlas.Proofs.Lineage.Ancestors

/-!
# Listing what hangs below symbols

The trees of a lineage are unfolded along paths, and listing them leaves out what was listed before.
What comes out is a walk over the symbols themselves: a symbol is entered unless it was listed, then
the classes that name it as their parent are walked in turn.  `Lineage.Visits` is this walk, as a
relation, and `visits_unfold` says that listing unfolded trees is such a walk.  The cuts in the
unfolding do not show, because a symbol that is cut was listed above.

Everything about lists of trees follows by induction on the walk: no number is listed twice
(`Visits.nodup`), a number is listed exactly if it is one of the starts or lies below one
(`Visits.holds_iff`), and an entry is a start at the top or a child right inside its parent
(`Visits.placed_cases`), which gives an induction along the entries (`Visits.placed_induction`).
-/

namespace LuaAtlas

namespace Tree

variable {listing later : Listing} {id depth d : Nat} {s u : Symbol} {around : List Symbol}

theorem Listing.holds_iff : listing.holds id = true ↔ id ∈ listing.map (·.1.id) := by
  simp [Listing.holds]

theorem Listing.holds_append (later : Listing) (h : listing.holds id = true) :
    Listing.holds (later ++ listing) id = true := by
  rw [holds_iff] at h ⊢
  rw [List.map_append]
  exact List.mem_append_right _ h

/-! ### Places in a listing -/

/-- The symbols that an entry at a depth stands inside of, the innermost first.  They are read off
the entries before it, the latest first: the nearest entry of a lower depth is the innermost one,
and what that stands inside of follows. -/
def enclosing (depth : Nat) : Listing → List Symbol
  | [] => []
  | (s, d) :: earlier => if d < depth then s :: enclosing d earlier else enclosing depth earlier

/-- **A symbol stands in a list of entries at a depth, inside of the given symbols.** -/
def StandsIn (flat : List (Symbol × Nat)) (s : Symbol) (depth : Nat) (around : List Symbol) :
    Prop :=
  ∃ before after, flat = before ++ (s, depth) :: after ∧
    enclosing depth before.reverse = around

/-- A symbol stands in a listing, whose latest entry comes first. -/
def Placed (listing : Listing) (s : Symbol) (depth : Nat) (around : List Symbol) : Prop :=
  ∃ later earlier, listing = later ++ (s, depth) :: earlier ∧ enclosing depth earlier = around

theorem standsIn_iff_placed {flat : List (Symbol × Nat)} :
    StandsIn flat s depth around ↔ Placed flat.reverse s depth around := by
  constructor
  · rintro ⟨before, after, rfl, hwithin⟩
    exact ⟨after.reverse, before.reverse, by simp, hwithin⟩
  · rintro ⟨later, earlier, hlist, hwithin⟩
    refine ⟨earlier.reverse, later.reverse, ?_, by rw [List.reverse_reverse]; exact hwithin⟩
    rw [← List.reverse_reverse flat, hlist]
    simp

theorem enclosing_zero (listing : Listing) : enclosing 0 listing = [] := by
  induction listing with
  | nil => rfl
  | cons e earlier ih => rw [enclosing, if_neg (Nat.not_lt_zero _), ih]

/-- Entries that are no higher do not matter to what an entry stands inside of. -/
theorem enclosing_append (h : ∀ e ∈ later, depth ≤ e.2) :
    enclosing depth (later ++ listing) = enclosing depth listing := by
  induction later with
  | nil => rfl
  | cons e later ih =>
    obtain ⟨he, hlater⟩ := List.forall_mem_cons.1 h
    rw [List.cons_append, enclosing, if_neg (by omega), ih hlater]

theorem placed_cons_iff : Placed ((s, d) :: listing) u depth around ↔
    (u = s ∧ depth = d ∧ around = enclosing d listing) ∨ Placed listing u depth around := by
  constructor
  · rintro ⟨later, earlier, hlist, rfl⟩
    cases later with
    | nil =>
      simp only [List.nil_append, List.cons.injEq, Prod.mk.injEq] at hlist
      obtain ⟨⟨rfl, rfl⟩, rfl⟩ := hlist
      exact Or.inl ⟨rfl, rfl, rfl⟩
    | cons e later =>
      obtain ⟨-, rfl⟩ := List.cons.inj hlist
      exact Or.inr ⟨later, earlier, rfl, rfl⟩
  · rintro (⟨rfl, rfl, rfl⟩ | ⟨later, earlier, rfl, rfl⟩)
    · exact ⟨[], listing, rfl, rfl⟩
    · exact ⟨(s, d) :: later, earlier, rfl, rfl⟩

theorem Placed.append (h : Placed listing s depth around) :
    Placed (later ++ listing) s depth around := by
  obtain ⟨between, earlier, rfl, hwithin⟩ := h
  exact ⟨later ++ between, earlier, by rw [List.append_assoc], hwithin⟩

theorem exists_placed (h : (s, depth) ∈ listing) : ∃ around, Placed listing s depth around := by
  obtain ⟨later, earlier, rfl⟩ := List.append_of_mem h
  exact ⟨_, later, earlier, rfl, rfl⟩

theorem StandsIn.mem {flat : List (Symbol × Nat)} (h : StandsIn flat s depth around) :
    (s, depth) ∈ flat := by
  obtain ⟨before, after, rfl, -⟩ := h
  exact List.mem_append_right _ List.mem_cons_self

/-- Every entry of a list stands in it. -/
theorem exists_standsIn {flat : List (Symbol × Nat)} (h : (s, depth) ∈ flat) :
    ∃ around, StandsIn flat s depth around := by
  simp only [standsIn_iff_placed]
  exact exists_placed (List.mem_reverse.2 h)

end Tree

namespace Lineage

open LuaAtlas.Tree

variable {c : Catalog} {depth d : Nat} {listing listing' : Listing} {symbols roots : List Symbol}
  {s u : Symbol} {around : List Symbol} {n : Nat}

theorem mem_childrenOf : s ∈ childrenOf c n ↔ s ∈ c.classes ∧ s.parent = some n := by
  rw [childrenOf, List.mem_filter, beq_iff_eq]

theorem mem_symbols_of_mem_childrenOf (h : s ∈ childrenOf c n) : s ∈ c.symbols :=
  (Catalog.mem_classes.1 (mem_childrenOf.1 h).1).1

/-! ### The walk -/

/-- **A walk over symbols and what hangs below them.**  The listing before the walk leads to the one
after it. -/
inductive Visits (c : Catalog) : Nat → Listing → List Symbol → Listing → Prop
  /-- Nothing is left to walk. -/
  | done {depth : Nat} {listing : Listing} : Visits c depth listing [] listing
  /-- A symbol that was listed is passed over. -/
  | skip {depth : Nat} {listing listing' : Listing} {s : Symbol} {rest : List Symbol}
      (hold : listing.holds s.id = true) (hrest : Visits c depth listing rest listing') :
      Visits c depth listing (s :: rest) listing'
  /-- Another one is listed, then its children one level deeper, then the rest. -/
  | enter {depth : Nat} {listing below listing' : Listing} {s : Symbol} {rest : List Symbol}
      (hnew : ¬ listing.holds s.id = true)
      (hbelow : Visits c (depth + 1) ((s, depth) :: listing) (childrenOf c s.id) below)
      (hrest : Visits c depth below rest listing') :
      Visits c depth listing (s :: rest) listing'

/-- **A walk only adds entries, none of them higher than where it starts.** -/
theorem Visits.grows (h : Visits c depth listing symbols listing') :
    ∃ later, listing' = later ++ listing ∧ ∀ e ∈ later, depth ≤ e.2 := by
  induction h with
  | done => exact ⟨[], rfl, nofun⟩
  | skip _ _ ih => exact ih
  | @enter depth listing _ _ s _ _ _ _ ihbelow ihrest =>
    obtain ⟨later, rfl, hlater⟩ := ihbelow
    obtain ⟨last, rfl, hlast⟩ := ihrest
    refine ⟨last ++ (later ++ [(s, depth)]), by simp, fun e he => ?_⟩
    rcases List.mem_append.1 he with he | he
    · exact hlast e he
    · rcases List.mem_append.1 he with he | he
      · exact Nat.le_of_succ_le (hlater e he)
      · rw [List.mem_singleton.1 he]

theorem Visits.holds_of_holds (h : Visits c depth listing symbols listing')
    (hn : listing.holds n = true) : listing'.holds n = true := by
  obtain ⟨later, rfl, -⟩ := h.grows
  exact Listing.holds_append later hn

theorem Visits.placed_of_placed (h : Visits c depth listing symbols listing')
    (hs : Placed listing s d around) : Placed listing' s d around := by
  obtain ⟨later, rfl, -⟩ := h.grows
  exact hs.append

theorem symbol_unfold (unmet : List Nat) : ∃ children, unfold c unmet s = .node s children := by
  rw [unfold]
  split
  · exact ⟨_, rfl⟩
  · exact ⟨_, rfl⟩

/-- **Listing unfolded trees walks the symbols**, if all numbers that are not listed may still be
followed. -/
theorem visits_unfold {unmet : List Nat} (hsymbols : ∀ s ∈ symbols, s ∈ c.symbols)
    (hunmet : ∀ n ∈ ids c, ¬ listing.holds n = true → n ∈ unmet) :
    Visits c depth listing symbols (listAll depth listing (symbols.map (unfold c unmet))) := by
  -- the children are unfolded with one number less to follow
  induction hlen : unmet.length using Nat.strong_induction_on
    generalizing unmet symbols depth listing with
  | _ len ihbelow =>
    induction symbols generalizing listing with
    | nil => exact .done
    | cons s rest ihrest =>
      obtain ⟨hs, hrest⟩ := List.forall_mem_cons.1 hsymbols
      rw [List.map_cons, listAll]
      by_cases hold : listing.holds s.id = true
      · obtain ⟨children, hunfold⟩ := symbol_unfold (c := c) (s := s) unmet
        rw [hunfold, list, if_pos hold]
        exact .skip hold (ihrest hrest hunmet)
      · have hmem : s.id ∈ unmet := hunmet s.id (List.mem_map_of_mem hs) hold
        rw [unfold, if_pos hmem, list, if_neg hold]
        have hshorter : (unmet.erase s.id).length < len := by
          have hpos := List.length_pos_of_mem hmem
          rw [List.length_erase_of_mem hmem]
          omega
        have hunmet' : ∀ n ∈ ids c, ¬ Listing.holds ((s, depth) :: listing) n = true →
            n ∈ unmet.erase s.id := by
          intro n hn hnew
          have hne : n ≠ s.id := by
            rintro rfl
            exact hnew (Listing.holds_iff.2 List.mem_cons_self)
          refine (List.mem_erase_of_ne hne).2 (hunmet n hn fun h => hnew ?_)
          exact Listing.holds_append [(s, depth)] h
        have hbelow : Visits c (depth + 1) ((s, depth) :: listing) (childrenOf c s.id)
            (listAll (depth + 1) ((s, depth) :: listing)
              ((childrenOf c s.id).map (unfold c (unmet.erase s.id)))) :=
          ihbelow _ hshorter (fun k hk => mem_symbols_of_mem_childrenOf hk) hunmet' rfl
        refine .enter hold hbelow (ihrest hrest fun n hn hnew => hunmet n hn fun h => hnew ?_)
        exact hbelow.holds_of_holds (Listing.holds_append [(s, depth)] h)

/-! ### What a walk does -/

/-- Every symbol of a walk is listed in the end. -/
theorem Visits.holds (h : Visits c depth listing symbols listing') (hs : s ∈ symbols) :
    listing'.holds s.id = true := by
  induction h with
  | done => cases hs
  | skip hold hrest ih =>
    rcases List.mem_cons.1 hs with rfl | hs
    · exact hrest.holds_of_holds hold
    · exact ih hs
  | enter _ hbelow hrest _ ihrest =>
    rcases List.mem_cons.1 hs with rfl | hs
    · exact hrest.holds_of_holds (hbelow.holds_of_holds (Listing.holds_iff.2 List.mem_cons_self))
    · exact ihrest hs

/-- The children of a symbol that a walk adds are listed in the end. -/
theorem Visits.closed (h : Visits c depth listing symbols listing') {e : Symbol × Nat}
    (he : e ∈ listing') : e ∈ listing ∨ ∀ k ∈ childrenOf c e.1.id, listing'.holds k.id = true := by
  induction h with
  | done => exact Or.inl he
  | skip _ _ ih => exact ih he
  | enter _ hbelow hrest ihbelow ihrest =>
    rcases ihrest he with he | hchildren
    · rcases ihbelow he with he | hchildren
      · rcases List.mem_cons.1 he with rfl | he
        · exact Or.inr fun k hk => hrest.holds_of_holds (hbelow.holds hk)
        · exact Or.inl he
      · exact Or.inr fun k hk => hrest.holds_of_holds (hchildren k hk)
    · exact Or.inr hchildren

theorem Visits.nodup (h : Visits c depth listing symbols listing')
    (hnodup : (listing.map (·.1.id)).Nodup) : (listing'.map (·.1.id)).Nodup := by
  induction h with
  | done => exact hnodup
  | skip _ _ ih => exact ih hnodup
  | enter hnew _ _ ihbelow ihrest =>
    rw [Listing.holds_iff] at hnew
    exact ihrest (ihbelow (List.nodup_cons.2 ⟨hnew, hnodup⟩))

/-- **What a walk adds** is one of its symbols, where it started, or a child of an entry, one level
deeper and right inside of it. -/
theorem Visits.placed_cases (h : Visits c depth listing symbols listing')
    (hu : Placed listing' u d around) :
    Placed listing u d around ∨
      (u ∈ symbols ∧ d = depth ∧ around = enclosing depth listing) ∨
      ∃ p e rest, Placed listing' p e rest ∧ u ∈ childrenOf c p.id ∧ d = e + 1 ∧
        around = p :: rest := by
  induction h with
  | done => exact Or.inl hu
  | skip _ _ ih =>
    exact (ih hu).imp_right (Or.imp_left fun ⟨hmem, hrest⟩ => ⟨List.mem_cons_of_mem _ hmem, hrest⟩)
  | @enter depth listing below listing' s rest hnew hbelow hrest ihbelow ihrest =>
    have htop : Placed below s depth (enclosing depth listing) :=
      hbelow.placed_of_placed (placed_cons_iff.2 (Or.inl ⟨rfl, rfl, rfl⟩))
    have hinside : enclosing (depth + 1) ((s, depth) :: listing) =
        s :: enclosing depth listing := by
      rw [enclosing, if_pos (Nat.lt_succ_self depth)]
    have hsame : enclosing depth below = enclosing depth listing := by
      obtain ⟨later, hlater, hdeeper⟩ := hbelow.grows
      rw [hlater, enclosing_append fun e he => Nat.le_of_succ_le (hdeeper e he), enclosing,
        if_neg (Nat.lt_irrefl depth)]
    rcases ihrest hu with hu | ⟨hmem, hd, haround⟩ | hchild
    · rcases ihbelow hu with hu | ⟨hmem, hd, haround⟩ | ⟨p, e, outer, hp, hchild⟩
      · rcases placed_cons_iff.1 hu with ⟨rfl, hd, haround⟩ | hu
        · exact Or.inr (Or.inl ⟨List.mem_cons_self, hd, haround⟩)
        · exact Or.inl hu
      · refine Or.inr (Or.inr ⟨s, depth, _, hrest.placed_of_placed htop, hmem, hd, ?_⟩)
        rw [haround, hinside]
      · exact Or.inr (Or.inr ⟨p, e, outer, hrest.placed_of_placed hp, hchild⟩)
    · exact Or.inr (Or.inl ⟨List.mem_cons_of_mem _ hmem, hd, haround.trans hsame⟩)
    · exact Or.inr (Or.inr hchild)

/-- A walk over two lists is one after the other. -/
theorem Visits.split {before after : List Symbol}
    (h : Visits c depth listing (before ++ after) listing') :
    ∃ middle, Visits c depth listing before middle ∧ Visits c depth middle after listing' := by
  induction before generalizing listing with
  | nil => exact ⟨listing, .done, h⟩
  | cons s before ih =>
    cases h with
    | skip hold hrest =>
      obtain ⟨middle, hbefore, hafter⟩ := ih hrest
      exact ⟨middle, .skip hold hbefore, hafter⟩
    | enter hnew hbelow hrest =>
      obtain ⟨middle, hbefore, hafter⟩ := ih hrest
      exact ⟨middle, .enter hnew hbelow hbefore, hafter⟩

/-! ### Whole walks -/

/-- In a walk from nothing an entry is a start at the top, or a child right inside its parent. -/
theorem Visits.placed_cases_of_nil (h : Visits c 0 [] roots listing)
    (hs : Placed listing s d around) :
    (s ∈ roots ∧ d = 0 ∧ around = []) ∨
      ∃ p e rest, Placed listing p e rest ∧ s ∈ childrenOf c p.id ∧ d = e + 1 ∧
        around = p :: rest := by
  rcases h.placed_cases hs with ⟨later, earlier, hnil, -⟩ | htop | hchild
  · simp at hnil
  · exact Or.inl htop
  · exact Or.inr hchild

/-- **Induction along the entries of a walk**: what holds of the starts, and of a child if it holds
of its parent, holds of every entry. -/
theorem Visits.placed_induction {motive : Symbol → Nat → List Symbol → Prop}
    (h : Visits c 0 [] roots listing) (hstart : ∀ r ∈ roots, motive r 0 [])
    (hchild : ∀ p e rest, Placed listing p e rest → motive p e rest →
      ∀ k ∈ childrenOf c p.id, motive k (e + 1) (p :: rest))
    (hs : Placed listing s d around) : motive s d around := by
  induction around generalizing s d with
  | nil =>
    rcases h.placed_cases_of_nil hs with ⟨hroot, rfl, -⟩ | ⟨p, e, rest, -, -, -, hnil⟩
    · exact hstart s hroot
    · cases hnil
  | cons q rest ih =>
    rcases h.placed_cases_of_nil hs with ⟨-, -, hnil⟩ | ⟨p, e, outer, hp, hk, rfl, hcons⟩
    · cases hnil
    · obtain ⟨rfl, rfl⟩ := List.cons.inj hcons
      exact hchild q e rest hp (ih hp) s hk

/-- A child names its parent. -/
theorem names_of_mem_childrenOf (hids : (c.symbols.map (·.id)).Nodup) (h : s ∈ childrenOf c n) :
    Names c s.id n := by
  obtain ⟨hs, hparent⟩ := mem_childrenOf.1 h
  exact names_of_parent hids hs hparent

theorem exists_mem_childrenOf {m : Nat} (h : Names c m n) : ∃ k ∈ childrenOf c n, k.id = m := by
  obtain ⟨k, hget, hkind, hparent⟩ := h
  obtain ⟨hk, hid⟩ := Catalog.mem_symbols_of_get? hget
  exact ⟨k, mem_childrenOf.2 ⟨Catalog.mem_classes.2 ⟨hk, hkind⟩, hparent⟩, hid⟩

theorem Visits.below_of_placed (hids : (c.symbols.map (·.id)).Nodup)
    (h : Visits c 0 [] roots listing) (hs : Placed listing s d around) :
    ∃ r ∈ roots, Below c s.id r.id := by
  refine h.placed_induction (motive := fun s _ _ => ∃ r ∈ roots, Below c s.id r.id)
    (fun r hr => ⟨r, hr, .refl⟩) ?_ hs
  rintro p e rest - ⟨r, hr, hbelow⟩ k hk
  exact ⟨r, hr, .head (names_of_mem_childrenOf hids hk) hbelow⟩

/-- **A walk from nothing lists its starts and what lies below them.** -/
theorem Visits.holds_iff (hids : (c.symbols.map (·.id)).Nodup) (h : Visits c 0 [] roots listing) :
    listing.holds n = true ↔ ∃ r ∈ roots, Below c n r.id := by
  constructor
  · intro hn
    obtain ⟨⟨s, d⟩, he, rfl⟩ := List.mem_map.1 (Listing.holds_iff.1 hn)
    obtain ⟨around, hs⟩ := exists_placed he
    exact h.below_of_placed hids hs
  · rintro ⟨r, hr, hbelow⟩
    induction hbelow using Relation.ReflTransGen.head_induction_on with
    | refl => exact h.holds hr
    | head hnames _ ih =>
      obtain ⟨e, he, rfl⟩ := List.mem_map.1 (Listing.holds_iff.1 ih)
      obtain ⟨k, hk, rfl⟩ := exists_mem_childrenOf hnames
      exact (h.closed he).elim (fun hnil => absurd hnil List.not_mem_nil) fun hall => hall k hk

/-- A start that does not lie below an earlier one stands at the top. -/
theorem Visits.placed_start (hids : (c.symbols.map (·.id)).Nodup) {before after : List Symbol}
    (h : Visits c 0 [] (before ++ s :: after) listing)
    (hbefore : ∀ r ∈ before, ¬ Below c s.id r.id) : Placed listing s 0 [] := by
  obtain ⟨middle, hmiddle, hafter⟩ := h.split
  have hnew : ¬ middle.holds s.id = true := by
    rw [hmiddle.holds_iff hids]
    rintro ⟨r, hr, hbelow⟩
    exact hbefore r hr hbelow
  cases hafter with
  | skip hold _ => exact absurd hold hnew
  | enter _ hbelow hrest =>
    apply hrest.placed_of_placed
    apply hbelow.placed_of_placed
    exact placed_cons_iff.2 (Or.inl ⟨rfl, rfl, (enclosing_zero middle).symm⟩)

/-- **Listing the trees below symbols of the catalogue is a walk.** -/
theorem visits_flatten (hroots : ∀ r ∈ roots, r ∈ c.symbols) :
    Visits c 0 [] roots (flatten (roots.map (treeOf c))).reverse := by
  rw [flatten, List.reverse_reverse]
  exact visits_unfold hroots fun _ hn _ => hn

theorem mem_ids_flatten_iff (hids : (c.symbols.map (·.id)).Nodup)
    (hroots : ∀ r ∈ roots, r ∈ c.symbols) :
    n ∈ (flatten (roots.map (treeOf c))).map (·.1.id) ↔ ∃ r ∈ roots, Below c n r.id := by
  rw [← (visits_flatten hroots).holds_iff hids, Listing.holds_iff, List.map_reverse,
    List.mem_reverse]

end Lineage

end LuaAtlas
