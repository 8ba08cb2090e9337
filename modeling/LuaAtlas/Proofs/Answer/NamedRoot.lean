import LuaAtlas.Proofs.Answer.ClassTree
import LuaAtlas.Proofs.Catalog.Outcomes
import LuaAtlas.Proofs.Line.Written

/-!
# The tree below a name

A tree of classes can be asked for by the name at its top.  The name is looked up among the declared
symbols of all kinds, and the one with the lowest number counts.  An unknown symbol keeps its number
when it is declared, and no other symbol of its name is there before that; so the symbol that counts
is the one whose declaration comes first, however early the name was used
(`Catalog.lookup?_draftOf_eq_some_iff`).

The forest has classes and their parents only.  So the answer is the tree below a class exactly if
no line in front of the class declares its name under another kind (`classTree_named`).  Behind an
enumeration of the same name a class has no tree at all (`classTree_hidden_class`).
-/

namespace LuaAtlas

/-! ### The first declaration of a name -/

/-- A declared name stands for a declared symbol. -/
theorem SymbolTable.WellFormed.exists_lookup? {t : SymbolTable} {s : Symbol} (h : t.WellFormed)
    (hs : s ∈ t.symbols) (hk : s.kind ≠ .unknown) :
    ∃ first ∈ t.symbols, t.lookup? s.name = some first ∧ first.name = s.name ∧
      first.kind ≠ .unknown := by
  cases hlookup : t.lookup? s.name with
  | none => exact absurd rfl (SymbolTable.lookup?_eq_none_iff.1 hlookup s hs)
  | some first =>
    obtain ⟨hfirst, hname⟩ := SymbolTable.mem_of_lookup?_eq_some hlookup
    refine ⟨first, hfirst, rfl, hname, fun hunknown => ?_⟩
    -- an unknown symbol would be the only one of its name
    rw [h.alone first hfirst s hs hname hunknown] at hunknown
    exact hk hunknown

namespace Catalog

variable {v : Vocabulary} {files : List (List Text)} {s : Symbol} {kind : SymbolKind}

theorem name_ne_nil (hs : s ∈ (draftOf v files).table.symbols) (hk : s.kind ≠ .unknown) :
    s.name ≠ [] := by
  obtain ⟨⟨marker, ⟨-, -, text, -, -, -, hmarker⟩, hd⟩, -⟩ := hasMarker_of_mem hs hk
  have hname := Marker.wellNamed_of_marker? hmarker _ _ hd
  intro hnil
  rw [hnil] at hname
  cases hname

/-- A symbol is not declared in front of its own first line. -/
theorem not_declaredBefore_self (hs : s ∈ (draftOf v files).table.symbols)
    (hk : s.kind ≠ .unknown) : ¬DeclaredBefore files s.file s.firstLine s.kind s.name := by
  rintro ⟨i, n, marker, hmarker, hd, hbefore⟩
  have hleast := (hasMarker_of_mem hs hk).2 i n marker hmarker hd
  omega

/-- **A name that was declared before stands for another symbol.** -/
theorem lookup?_draftOf_ne (hs : s ∈ (draftOf v files).table.symbols)
    (hk : s.kind ≠ .unknown) (h : DeclaredBefore files s.file s.firstLine kind s.name) :
    (draftOf v files).table.lookup? s.name ≠ some s := by
  obtain ⟨⟨marker, hmarker, -⟩, -⟩ := hasMarker_of_mem hs hk
  obtain ⟨earlier, later, part, hmarks, -, haccounted, hpassing, hext⟩ := exists_passage v hmarker
  have hfound (k : SymbolKind) (hk' : k ≠ .unknown) :
      DeclaredBefore files s.file s.firstLine k s.name ↔
        ((Draft.reaching v files s.file s.firstLine).table.find? s.name k).isSome = true := by
    rw [← haccounted.any_declares k hk' s.name]
    exact declaredBefore_iff hmarks k s.name
  -- from the line on, the draft is only extended, so the name keeps its symbol
  have hall : Draft.Extends Set.univ (Draft.reaching v files s.file s.firstLine)
      (draftOf v files) := by
    refine ((Draft.steps_enterPart v s.file haccounted.wellFormed part).extends
      haccounted.wellFormed (Set.mem_univ s.file)).trans ?_
    rw [← hpassing]
    exact hext
  have hdeclared : kind ≠ .unknown := by
    rintro rfl
    obtain ⟨-, -, marker', -, hd, -⟩ := h
    exact marker'.declared?_ne_unknown _ hd
  obtain ⟨u, hu⟩ := Option.isSome_iff_exists.1 ((hfound kind hdeclared).1 h)
  obtain ⟨hu, hun, huk⟩ := SymbolTable.mem_of_find?_eq_some hu
  obtain ⟨w, hw, hlookup, hwn, hwk⟩ := haccounted.wellFormed.exists_lookup? hu (huk ▸ hdeclared)
  rw [hun] at hlookup hwn
  have hne : w.kind ≠ s.kind := by
    intro hsame
    refine not_declaredBefore_self hs hk ((hfound s.kind hk).2 ?_)
    rw [haccounted.wellFormed.find?_eq_some_iff.2 ⟨hw, hwn, hsame⟩]
    rfl
  obtain ⟨w', hw', hextends⟩ := hall.table.lookup?_eq_some haccounted.wellFormed hlookup
  intro heq
  rw [heq, Option.some_inj] at hw'
  subst hw'
  exact hne (hextends.kind hwk).symm

/-- **A name stands for the symbol that is declared first.** -/
theorem lookup?_draftOf_eq_some_iff (hs : s ∈ (draftOf v files).table.symbols)
    (hk : s.kind ≠ .unknown) :
    (draftOf v files).table.lookup? s.name = some s ↔
      ∀ kind, ¬DeclaredBefore files s.file s.firstLine kind s.name := by
  refine ⟨fun h kind hbefore => lookup?_draftOf_ne hs hk hbefore h, fun hfirst => ?_⟩
  have hwell := wellFormed_draftOf v files
  obtain ⟨w, hw, hlookup, hwn, hwk⟩ := hwell.exists_lookup? hs hk
  -- of two declarations one comes first, unless they are on one line
  obtain ⟨⟨marker, hm, hd⟩, -⟩ := hasMarker_of_mem hs hk
  obtain ⟨⟨marker', hm', hd'⟩, -⟩ := hasMarker_of_mem hw hwk
  have hnot : ¬(w.file < s.file ∨ w.file = s.file ∧ w.firstLine < s.firstLine) := fun hbefore =>
    hfirst w.kind ⟨w.file, w.firstLine, marker', hm', hwn ▸ hd', hbefore⟩
  have hnot' : ¬(s.file < w.file ∨ s.file = w.file ∧ s.firstLine < w.firstLine) := fun hbefore =>
    lookup?_draftOf_ne hw hwk ⟨s.file, s.firstLine, marker, hm, hwn ▸ hd, hbefore⟩
      (hwn ▸ hlookup)
  have hfile : w.file = s.file := by omega
  have hline : w.firstLine = s.firstLine := by omega
  rw [hfile, hline] at hm'
  rw [hm.marker_eq hm', hd', Option.some_inj] at hd
  rw [hlookup, hwell.unique w hw s hs hwn (congrArg Prod.fst hd)]

/-- A name that stands for a declared symbol is found among the declared symbols. -/
theorem find?_of_lookup?_eq_some {d : Draft} {name : Text} (h : d.table.WellFormed)
    (files : List (List Text)) (hlookup : d.table.lookup? name = some s) (hk : s.kind ≠ .unknown) :
    (ofDraft d files).find? name none = some s := by
  obtain ⟨hs, hname⟩ := SymbolTable.mem_of_lookup?_eq_some hlookup
  refine (find?_eq_some_iff fun _ => get?_of_mem_candidates h).2
    ⟨mem_declared.2 ⟨hs, hk⟩, hname, fun u hu hun => ?_⟩
  exact h.id_le_of_lookup?_eq_some hlookup (mem_candidates.1 hu).1 hun

/-- **A declared name is found where it is declared first.** -/
theorem exists_find? (hs : s ∈ (draftOf v files).table.symbols) (hk : s.kind ≠ .unknown) :
    ∃ first ∈ (ofDraft (draftOf v files) files).declared,
      (ofDraft (draftOf v files) files).find? s.name none = some first ∧ first.name = s.name ∧
        (draftOf v files).table.lookup? s.name = some first := by
  have hwell := wellFormed_draftOf v files
  obtain ⟨first, hfirst, hlookup, hname, hdeclared⟩ := hwell.exists_lookup? hs hk
  exact ⟨first, mem_declared.2 ⟨hfirst, hdeclared⟩,
    find?_of_lookup?_eq_some hwell files hlookup hdeclared, hname, hlookup⟩

end Catalog

/-! ### One tree -/

theorem Lineage.exists_treeOf_eq (c : Catalog) (s : Symbol) :
    ∃ children, treeOf c s = .node s children := by
  unfold treeOf
  rw [unfold]
  split
  · exact ⟨_, rfl⟩
  · exact ⟨_, rfl⟩

namespace Answer

variable {v : Volume}

/-- The answer for a name that is found: one node, if the symbol is in the forest. -/
theorem field?_classTree_of_find? {root : Text} {first : Symbol} (asked : Json) (hroot : root ≠ [])
    (hfind : v.catalog.find? root none = some first)
    (hget : v.catalog.get? first.id = some first) :
    (classTree v root asked).field? "error" = none ∧
      ∃ nodes, (classTree v root asked).field? "tree" = some (.arr nodes) ∧
        nodes.map (·.field? "id") =
          if Lineage.isNode v.catalog first then [some (.nat first.id)] else [] := by
  have htrees : trees? v.catalog root =
      some (if Lineage.isNode v.catalog first then [Lineage.treeOf v.catalog first] else []) := by
    rw [trees?, List.isEmpty_eq_false_iff.2 hroot, hfind]
    simp only [Bool.false_eq_true, ↓reduceIte, Option.map_some, Lineage.treeAt, hget]
  unfold classTree
  rw [htrees]
  refine ⟨rfl, _, rfl, ?_⟩
  split
  · obtain ⟨children, htree⟩ := Lineage.exists_treeOf_eq v.catalog first
    rw [htree]
    exact congrArg (fun id => [id]) (field?_treeNode v _ first _).1
  · rfl

/-- **The tree below the name of a class.**  There is always an answer.  The name stands for the
symbol that is declared first with it, of any kind, and the answer has one node, for this symbol, if
it is a class or the parent of one, and no node otherwise.  So the class itself is at the top
exactly if no line in front of its own declares the name. -/
theorem classTree_named (voc : Vocabulary) (texts : List Text) (v : Volume)
    (hbuilt : v.catalog = Catalog.ofTexts voc texts) {s : Symbol} (hs : s ∈ v.catalog.classes)
    (asked : Json) :
    let files := texts.map Text.lines
    let answer := classTree v s.name asked
    answer.field? "error" = none ∧
      ∃ nodes, ∃ first ∈ v.catalog.declared, answer.field? "tree" = some (.arr nodes) ∧
        first.name = s.name ∧
        (∀ kind, ¬DeclaredBefore files first.file first.firstLine kind s.name) ∧
        nodes.map (·.field? "id") =
          (if Lineage.isNode v.catalog first then [some (.nat first.id)] else []) ∧
        (nodes.map (·.field? "id") = [some (.nat s.id)] ↔
          ∀ kind, ¬DeclaredBefore files s.file s.firstLine kind s.name) := by
  intro files answer
  have hwell := Catalog.wellFormed_draftOf voc files
  have hcatalog : v.catalog = Catalog.ofDraft (Catalog.draftOf voc files) files := hbuilt
  obtain ⟨hmem, hk⟩ := Catalog.mem_classes.1 hs
  rw [hcatalog] at hmem
  have hdeclared : s.kind ≠ .unknown := by
    rw [hk]
    decide
  obtain ⟨first, hfirst, hfind, hname, hlookup⟩ := Catalog.exists_find? hmem hdeclared
  obtain ⟨hfirstmem, hfirstk⟩ := Catalog.mem_declared.1 hfirst
  have hget := hwell.get?_eq_some_iff.2 ⟨hfirstmem, rfl⟩
  rw [← hcatalog] at hfind hfirst
  obtain ⟨hok, nodes, htree, hids⟩ := field?_classTree_of_find? asked
    (Catalog.name_ne_nil hmem hdeclared) hfind (hcatalog ▸ hget)
  refine ⟨hok, nodes, first, hfirst, htree, hname, ?_, hids, ?_⟩
  · rw [← hname] at hlookup ⊢
    exact (Catalog.lookup?_draftOf_eq_some_iff hfirstmem hfirstk).1 hlookup
  · rw [← Catalog.lookup?_draftOf_eq_some_iff hmem hdeclared, hlookup, hids]
    constructor
    · intro h
      split at h
      · have hid : first.id = s.id := by
          simp only [Json.nat, List.cons.injEq, Option.some.injEq, Json.int.injEq, and_true] at h
          omega
        rw [hwell.eq_of_id_eq hfirstmem hmem hid]
      · cases h
    · intro h
      obtain rfl := Option.some.inj h
      have hnode : Lineage.isNode v.catalog first = true := by
        rw [Lineage.isNode, hk]
        rfl
      rw [hnode]
      rfl

/-- A class that was used before it was declared, with an enumeration of the same name behind it. -/
theorem classTree_named_used_before :
    let texts := ["---@class B : A\n---@class A\n---@enum A".toList]
    let v : Volume := ⟨[], [], [], Catalog.ofTexts .standard texts⟩
    ∃ s ∈ v.catalog.classes, s.name = "A".toList ∧
      (∀ kind, ¬DeclaredBefore (texts.map Text.lines) s.file s.firstLine kind s.name) ∧
      (classTree v s.name (.text s.name)).field? "error" = none ∧
      ∃ nodes, (classTree v s.name (.text s.name)).field? "tree" = some (.arr nodes) ∧
        nodes.map (·.field? "id") = [some (.nat s.id)] := by
  intro texts v
  have hlookup : ((Catalog.draftOf .standard (texts.map Text.lines)).table.lookup?
      "A".toList).map (·.kind) = some .classKind := by decide +kernel
  obtain ⟨s, hs, hk⟩ := Option.map_eq_some_iff.1 hlookup
  obtain ⟨hmem, hname⟩ := SymbolTable.mem_of_lookup?_eq_some hs
  have hclass : s ∈ v.catalog.classes := Catalog.mem_classes.2 ⟨hmem, hk⟩
  obtain ⟨hok, nodes, first, -, htree, -, -, -, hiff⟩ :=
    classTree_named .standard texts v rfl hclass (.text s.name)
  have hfirst : ∀ kind, ¬DeclaredBefore (texts.map Text.lines) s.file s.firstLine kind s.name := by
    refine (Catalog.lookup?_draftOf_eq_some_iff hmem ?_).1 ?_
    · rw [hk]
      decide
    · rw [hname]
      exact hs
  exact ⟨s, hclass, hname, hfirst, hok, nodes, htree, hiff.2 hfirst⟩

/-- **A class behind an enumeration of the same name has no tree.** -/
theorem classTree_hidden_class :
    let texts := ["---@enum A\n---@class A".toList]
    let v : Volume := ⟨[], [], [], Catalog.ofTexts .standard texts⟩
    ∃ s ∈ v.catalog.classes, s.name = "A".toList ∧
      (classTree v s.name (.text s.name)).field? "tree" = some (.arr []) := by
  intro texts v
  have hwell := Catalog.wellFormed_draftOf .standard (texts.map Text.lines)
  have hlookup : ((Catalog.draftOf .standard (texts.map Text.lines)).table.lookup?
      "A".toList).map (fun first => (first.kind, Lineage.isNode v.catalog first)) =
        some (.enumKind, false) := by decide +kernel
  have hclass : ((Catalog.draftOf .standard (texts.map Text.lines)).table.find?
      "A".toList .classKind).isSome = true := by decide +kernel
  obtain ⟨s, hs⟩ := Option.isSome_iff_exists.1 hclass
  obtain ⟨hmem, hname, hk⟩ := SymbolTable.mem_of_find?_eq_some hs
  obtain ⟨first, hfirst, hpair⟩ := Option.map_eq_some_iff.1 hlookup
  obtain ⟨hfirstk, hnode⟩ := Prod.mk.inj hpair
  have hdeclared : first.kind ≠ .unknown := by
    rw [hfirstk]
    decide
  have hfind : v.catalog.find? "A".toList none = some first :=
    Catalog.find?_of_lookup?_eq_some hwell _ hfirst hdeclared
  have hget : v.catalog.get? first.id = some first :=
    hwell.get?_eq_some_iff.2 ⟨(SymbolTable.mem_of_lookup?_eq_some hfirst).1, rfl⟩
  obtain ⟨-, nodes, htree, hids⟩ :=
    field?_classTree_of_find? (.text s.name) (by decide) hfind hget
  rw [hnode] at hids
  obtain rfl := List.map_eq_nil_iff.1 hids
  refine ⟨s, Catalog.mem_classes.2 ⟨hmem, hk⟩, hname, ?_⟩
  rw [hname] at htree ⊢
  exact htree

end Answer

end LuaAtlas
