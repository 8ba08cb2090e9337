import LuaAtlas.Answer.Outline
import LuaAtlas.Proofs.Lineage.Forest

/-!
# The tree of classes as it is answered

The answer about classes is made by two walks over the same trees.  One lists the symbols and skips
those that it has listed, and the summaries are taken from its list.  The other nests the symbols
and skips those that it has met.  Both remember the same numbers at every place
(`Tree.Agree`), so they skip the same trees: the list is the nested trees read from the top down
(`Tree.flatten_eq_allEntries`).

A nested value is read back by `Json.preorder`, which knows only the field `children`.  What it
reads in an answer is the list (`classTree_preorder`), so every summary is found under its number,
and no summary is empty (`Summary.ofSymbol_ne_nil`).
-/

namespace LuaAtlas

/-! ### Listing and cutting -/

namespace Tree

mutual

/-- The symbols of a tree from the top down, each with its depth, however often it stands there. -/
def entries (depth : Nat) : Tree → List (Symbol × Nat)
  | node s children => (s, depth) :: allEntries (depth + 1) children

/-- The symbols of trees one after the other. -/
def allEntries (depth : Nat) : List Tree → List (Symbol × Nat)
  | [] => []
  | tree :: trees => entries depth tree ++ allEntries depth trees

end

theorem allEntries_append (depth : Nat) (trees more : List Tree) :
    allEntries depth (trees ++ more) = allEntries depth trees ++ allEntries depth more := by
  induction trees with
  | nil => rfl
  | cons tree trees ih => simp only [List.cons_append, allEntries, ih, List.append_assoc]

/-- What was listed are the numbers that were met. -/
def Agree (listing : Listing) (met : List Nat) : Prop :=
  ∀ id, listing.holds id = met.contains id

theorem Agree.cons {listing : Listing} {met : List Nat} (h : Agree listing met) (s : Symbol)
    (depth : Nat) : Agree ((s, depth) :: listing) (s.id :: met) := by
  intro id
  have hrest : listing.holds id = met.contains id := h id
  rw [List.contains_cons, ← hrest, Listing.holds, List.any_cons, Listing.holds, BEq.comm]

mutual

/-- **Listing a tree lists what cutting leaves of it**, and both go on in agreement. -/
theorem list_eq (depth : Nat) {listing : Listing} {met : List Nat} (h : Agree listing met) :
    (tree : Tree) →
      list depth listing tree = (allEntries depth (once met tree).1.toList).reverse ++ listing ∧
        Agree (list depth listing tree) (once met tree).2
  | node s children => by
    rw [list, once]
    by_cases hold : listing.holds s.id = true
    · have hmet : met.contains s.id = true := by rw [← h s.id, hold]
      rw [if_pos hold, if_pos hmet]
      exact ⟨rfl, h⟩
    · have hmet : ¬ met.contains s.id = true := by rw [← h s.id]; exact hold
      rw [if_neg hold, if_neg hmet]
      obtain ⟨hbelow, hagree⟩ := listAll_eq (depth + 1) (h.cons s depth) children
      refine ⟨?_, hagree⟩
      rw [hbelow]
      simp [allEntries, entries]

/-- Trees are listed in agreement with cutting, one after the other. -/
theorem listAll_eq (depth : Nat) {listing : Listing} {met : List Nat} (h : Agree listing met) :
    (trees : List Tree) →
      listAll depth listing trees =
          (allEntries depth (onceAll met trees).1).reverse ++ listing ∧
        Agree (listAll depth listing trees) (onceAll met trees).2
  | [] => ⟨rfl, h⟩
  | tree :: trees => by
    obtain ⟨hfirst, hagree⟩ := list_eq depth h tree
    obtain ⟨hrest, hagree⟩ := listAll_eq depth hagree trees
    rw [listAll, onceAll]
    refine ⟨?_, hagree⟩
    rw [hrest, hfirst, allEntries_append, List.reverse_append, List.append_assoc]

end

/-- **A flattened list of trees is what stands in the trees once all repeats are cut.** -/
theorem flatten_eq_allEntries (trees : List Tree) :
    flatten trees = allEntries 0 (distinct trees) := by
  have hstart : Agree [] [] := fun _ => rfl
  obtain ⟨hlist, -⟩ := listAll_eq 0 hstart trees
  rw [flatten, hlist, List.append_nil, List.reverse_reverse, distinct]

end Tree

namespace Lineage

open LuaAtlas.Tree

variable {c : Catalog} {roots : List Symbol}

/-- A walk over symbols of the catalogue lists such symbols only. -/
theorem Visits.mem_symbols {listing : Listing} (h : Visits c 0 [] roots listing)
    (hroots : ∀ r ∈ roots, r ∈ c.symbols) : ∀ e ∈ listing, e.1 ∈ c.symbols := by
  rintro ⟨s, depth⟩ he
  obtain ⟨around, hs⟩ := exists_placed he
  refine h.placed_induction (motive := fun s _ _ => s ∈ c.symbols) hroots ?_ hs
  intro _ _ _ _ _ k hk
  exact mem_symbols_of_mem_childrenOf hk

/-- What a class gives as a top is a symbol of the catalogue. -/
theorem mem_symbols_of_topFor? {s t : Symbol} (hs : s ∈ c.classes) (ht : topFor? c s = some t) :
    t ∈ c.symbols := by
  rcases topFor?_eq_some_iff.1 ht with ⟨-, rfl⟩ | ⟨hparent, -⟩
  · exact (Catalog.mem_classes.1 hs).1
  · obtain ⟨p, -, hget⟩ := Option.bind_eq_some_iff.1 hparent
    exact (Catalog.mem_symbols_of_get? hget).1

/-- The trees that are asked for hang below symbols of the catalogue. -/
theorem exists_roots_of_trees? {root : Text} {trees : List Tree}
    (h : Answer.trees? c root = some trees) :
    ∃ roots : List Symbol, (∀ r ∈ roots, r ∈ c.symbols) ∧ trees = roots.map (treeOf c) := by
  unfold Answer.trees? at h
  split at h
  · obtain rfl := Option.some.inj h
    refine ⟨tops c ++ lateTops c, fun r hr => ?_, forest_eq c⟩
    rcases List.mem_append.1 hr with htop | hlate
    · obtain ⟨s, hs, ht⟩ := List.mem_filterMap.1 (mem_of_mem_distinct htop)
      exact mem_symbols_of_topFor? hs ht
    · exact (Catalog.mem_classes.1 (mem_classes_of_mem_lateTops hlate)).1
  · obtain ⟨s, -, rfl⟩ := Option.map_eq_some_iff.1 h
    unfold treeAt
    split
    · rename_i u hget
      split
      · refine ⟨[u], fun r hr => ?_, rfl⟩
        rw [List.mem_singleton.1 hr]
        exact (Catalog.mem_symbols_of_get? hget).1
      · exact ⟨[], fun r hr => absurd hr List.not_mem_nil, rfl⟩
    · exact ⟨[], fun r hr => absurd hr List.not_mem_nil, rfl⟩

end Lineage

/-! ### Summaries -/

namespace Summary

/-- A summary is found under the number of its symbol, if no other symbol has the number. -/
theorem under_table {symbols : List Symbol} {s : Symbol} (hids : (symbols.map (·.id)).Nodup)
    (hs : s ∈ symbols) : under (table symbols) s.id = ofSymbol s := by
  have hmem : (s.id, ofSymbol s) ∈ (table symbols).reverse :=
    List.mem_reverse.2 (List.mem_map.2 ⟨s, hs, rfl⟩)
  cases hfind : (table symbols).reverse.find? (·.1 == s.id) with
  | none => exact absurd (List.find?_eq_none.1 hfind _ hmem) (by simp)
  | some e =>
    obtain ⟨u, hu, rfl⟩ := List.mem_map.1 (List.mem_reverse.1 (List.mem_of_find?_eq_some hfind))
    have hid : u.id = s.id := by simpa using List.find?_some hfind
    rw [under, hfind, List.inj_on_of_nodup_map hids hu hs hid]
    rfl

theorem ofDeclaration_ne_nil (declaration : Text) (sort : String) (name : Text) :
    ofDeclaration declaration sort name ≠ [] := by
  unfold ofDeclaration
  split
  · simp
  · rename_i hne
    cases declaration with
    | nil => exact absurd rfl hne
    | cons c cs => simp [limit]

theorem toList_classText_ne_nil (name : Text) (properties methods : Nat) (hasParent : Bool) :
    (classText name properties methods hasParent).toList ≠ [] := by
  unfold classText
  simp only [toString, String.toList_append]
  simp

theorem toList_enumText_ne_nil (name : Text) (values : Nat) :
    (enumText name values).toList ≠ [] := by
  unfold enumText
  simp only [toString, String.toList_append]
  simp

theorem aliasText_ne_nil (name : Text) (values : List Text) : aliasText name values ≠ [] := by
  have hword : "Alias ".toList ≠ [] := by decide
  have hpos : limit ≠ 0 := by decide
  simp only [aliasText, ne_eq, List.take_eq_nil_iff, List.append_eq_nil_iff, hword, hpos, false_and,
    or_self, not_false_eq_true]

theorem fallback_ne_nil (s : Symbol) : fallback s ≠ [] := by
  unfold fallback
  cases s.body with
  | unknown => exact List.append_ne_nil_of_left_ne_nil (by decide) s.name
  | classBody => exact toList_classText_ne_nil _ _ _ _
  | enumBody => exact toList_enumText_ne_nil _ _
  | aliasBody => exact aliasText_ne_nil _ _
  | functionBody => exact ofDeclaration_ne_nil _ _ _

/-- **Every symbol has a summary.** -/
theorem ofSymbol_ne_nil (s : Symbol) : ofSymbol s ≠ [] := by
  unfold ofSymbol
  split
  · unfold orElse
    split
    · exact fallback_ne_nil s
    · rename_i hne
      simpa using hne
  · exact fallback_ne_nil s

end Summary

/-! ### Reading nested values -/

namespace Json

/-- The values in the field `children` of a value. -/
def children (j : Json) : List Json :=
  match j.field? "children" with
  | some (.arr items) => items
  | _ => []

theorem sizeOf_lt_of_mem_children {j child : Json} (h : child ∈ j.children) :
    sizeOf child < sizeOf j := by
  unfold children at h
  split at h
  · rename_i items hfield
    cases j with
    | obj fields =>
      obtain ⟨⟨key, value⟩, hfind, rfl⟩ := Option.map_eq_some_iff.1 hfield
      have hmem := List.sizeOf_lt_of_mem (List.mem_reverse.1 (List.mem_of_find?_eq_some hfind))
      have hchild := List.sizeOf_lt_of_mem h
      simp only [Prod.mk.sizeOf_spec, arr.sizeOf_spec, obj.sizeOf_spec] at hmem ⊢
      omega
    | _ => cases hfield
  · cases h

/-- **A value and what is nested in it, from the top down**, each with its depth. -/
def preorder (depth : Nat) (j : Json) : List (Json × Nat) :=
  (j, depth) :: j.children.attach.flatMap fun child => preorder (depth + 1) child.1
termination_by sizeOf j
decreasing_by exact sizeOf_lt_of_mem_children child.2

theorem preorder_eq (depth : Nat) (j : Json) :
    j.preorder depth = (j, depth) :: j.children.flatMap (preorder (depth + 1)) := by
  rw [preorder, List.flatMap_subtype (g := preorder (depth + 1)) fun _ _ => rfl,
    List.unattach_attach]

end Json

namespace Answer

open LuaAtlas.Tree

variable (v : Volume) (summaries : List (Nat × Text))

/-- What a node says about its symbol. -/
theorem field?_treeNode (s : Symbol) (trees : List Tree) :
    (treeNode v summaries (.node s trees)).field? "id" = some (.nat s.id) ∧
      (treeNode v summaries (.node s trees)).field? "summary" =
        some (.text (Summary.under summaries s.id)) := by
  unfold treeNode childrenField
  split <;> exact ⟨rfl, rfl⟩

theorem children_treeNode (s : Symbol) (trees : List Tree) :
    (treeNode v summaries (.node s trees)).children = treeNodes v summaries trees := by
  unfold treeNode childrenField
  split
  · rename_i hempty
    rw [List.isEmpty_iff.1 hempty]
    rfl
  · rfl

mutual

theorem preorder_treeNode (depth : Nat) : (tree : Tree) →
    ((treeNode v summaries tree).preorder depth).map
        (fun e => (e.1.field? "id", e.1.field? "summary", e.2)) =
      (entries depth tree).map fun e =>
        (some (.nat e.1.id), some (.text (Summary.under summaries e.1.id)), e.2)
  | node s trees => by
    obtain ⟨hid, hsummary⟩ := field?_treeNode v summaries s trees
    rw [Json.preorder_eq, List.map_cons, children_treeNode, entries, List.map_cons, hid, hsummary,
      preorder_treeNodes (depth + 1) trees]

/-- **The nodes of an answer are the entries of the trees**, at the same depths. -/
theorem preorder_treeNodes (depth : Nat) : (trees : List Tree) →
    ((treeNodes v summaries trees).flatMap (Json.preorder depth)).map
        (fun e => (e.1.field? "id", e.1.field? "summary", e.2)) =
      (allEntries depth trees).map fun e =>
        (some (.nat e.1.id), some (.text (Summary.under summaries e.1.id)), e.2)
  | [] => rfl
  | tree :: trees => by
    rw [treeNodes, List.flatMap_cons, List.map_append, allEntries, List.map_append,
      preorder_treeNode depth tree, preorder_treeNodes depth trees]

end

variable {v}

/-- An answer that is no error nests the trees that were asked for. -/
theorem field?_classTree {root : Text} {asked : Json}
    (hok : (classTree v root asked).field? "error" = none) :
    ∃ trees, trees? v.catalog root = some trees ∧
      (classTree v root asked).field? "tree" = some (.arr
        (treeNodes v (Summary.table ((flatten trees).map (·.1))) (distinct trees))) := by
  unfold classTree at hok ⊢
  cases htrees : trees? v.catalog root with
  | none =>
    rw [htrees] at hok
    cases hok
  | some trees => exact ⟨trees, rfl, rfl⟩

/-- **The nested answer and the flattened trees agree**, whatever the parents of the classes are.
Read from the top down, the nodes of an answer that is no error are the entries of the flattened
trees, with the same numbers at the same depths.  Each node has the summary of its own symbol, which
is a symbol of the catalogue, and no summary is empty. -/
theorem classTree_preorder (v : Volume) (root : Text) (asked : Json)
    (hok : (classTree v root asked).field? "error" = none) :
    ∃ trees nodes, trees? v.catalog root = some trees ∧
      (classTree v root asked).field? "tree" = some (.arr nodes) ∧
      (nodes.flatMap (Json.preorder 0)).map
          (fun e => (e.1.field? "id", e.1.field? "summary", e.2)) =
        (flatten trees).map (fun e =>
          (some (.nat e.1.id), some (.text (Summary.ofSymbol e.1)), e.2)) ∧
      ∀ e ∈ flatten trees, e.1 ∈ v.catalog.symbols ∧ Summary.ofSymbol e.1 ≠ [] := by
  obtain ⟨trees, htrees, hfield⟩ := field?_classTree hok
  obtain ⟨roots, hroots, hsame⟩ := Lineage.exists_roots_of_trees? htrees
  have hwalk : Lineage.Visits v.catalog 0 [] roots (flatten trees).reverse :=
    hsame ▸ Lineage.visits_flatten hroots
  have hids : (((flatten trees).map (·.1)).map (·.id)).Nodup := by
    have hnodup := hwalk.nodup .nil
    rw [List.map_reverse, List.nodup_reverse] at hnodup
    rw [List.map_map]
    exact hnodup
  refine ⟨trees, _, htrees, hfield, ?_, fun e he => ⟨?_, Summary.ofSymbol_ne_nil e.1⟩⟩
  · rw [preorder_treeNodes, ← flatten_eq_allEntries]
    refine List.map_congr_left fun e he => ?_
    rw [Summary.under_table hids (List.mem_map_of_mem he)]
  · exact hwalk.mem_symbols hroots e (List.mem_reverse.2 he)

/-- Two classes that are each other's parents, a class below them that comes first, a class that is
its own parent and one whose parent is absent. -/
theorem classTree_preorder_cycles :
    let cls (id parent : Nat) : Symbol :=
      { id, name := ['C'], file := 0, firstLine := 1, lastLine := 1, parent := some parent
        body := .classBody [] [] }
    let v : Volume :=
      { name := [], builtAt := [], sources := []
        catalog := { symbols := [cls 0 1, cls 1 2, cls 2 1, cls 3 3, cls 4 9] } }
    (classTree v [] .null).field? "error" = none ∧
      ∃ trees nodes, trees? v.catalog [] = some trees ∧
        (flatten trees).map (fun e => (e.1.id, e.2)) = [(4, 0), (0, 0), (1, 0), (2, 1), (3, 0)] ∧
        (classTree v [] .null).field? "tree" = some (.arr nodes) ∧
        (nodes.flatMap (Json.preorder 0)).map
            (fun e => (e.1.field? "id", e.1.field? "summary", e.2)) =
          (flatten trees).map (fun e =>
            (some (.nat e.1.id), some (.text (Summary.ofSymbol e.1)), e.2)) ∧
        ∀ e ∈ flatten trees, e.1 ∈ v.catalog.symbols ∧ Summary.ofSymbol e.1 ≠ [] := by
  intro cls v
  have hok : (classTree v [] .null).field? "error" = none := rfl
  have hflat : (flatten (Lineage.forest v.catalog)).map (fun e => (e.1.id, e.2)) =
      [(4, 0), (0, 0), (1, 0), (2, 1), (3, 0)] := by decide +kernel
  obtain ⟨trees, nodes, htrees, hnodes⟩ := classTree_preorder v [] .null hok
  obtain rfl : Lineage.forest v.catalog = trees := Option.some.inj htrees
  exact ⟨hok, _, nodes, rfl, hflat, hnodes⟩

end Answer

end LuaAtlas
