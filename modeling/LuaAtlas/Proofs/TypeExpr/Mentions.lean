import LuaAtlas.TypeExpr.Reading
import Mathlib.Data.List.Basic

/-!
# What a type mentions

The names that a type mentions at its top are exactly the names that have to be resolved for it
(`mem_refs_read_iff`), for every text, malformed ones included: no name that is met anywhere inside
is lost on the way up, and none is added.  The proof goes over the forms of a type once and for all:
`read_induction` turns a property that every combination passes on from the pieces to the whole into
a property of every reading.

Merging mentions keeps the first occurrence of each, so it does not matter whether repetitions are
dropped in the parts already (`eraseDups_flatMap_eraseDups`).
-/

namespace LuaAtlas

/-! ### Lists without repetitions -/

section EraseDups

variable {α β : Type} [BEq β] [LawfulBEq β]

theorem filter_eraseDups (p : β → Bool) (l : List β) :
    l.eraseDups.filter p = (l.filter p).eraseDups := by
  induction hn : l.length using Nat.strongRecOn generalizing l with
  | _ n ih =>
  cases l with
  | nil => rfl
  | cons a l =>
    have hlt : (l.filter fun b => !b == a).length < n := by
      have := List.length_filter_le (fun b => !b == a) l
      rw [List.length_cons] at hn
      omega
    have hcomm : (l.filter fun b => !b == a).filter p = (l.filter p).filter fun b => !b == a := by
      rw [List.filter_filter, List.filter_filter]
      exact List.filter_congr fun b _ => Bool.and_comm ..
    rw [List.eraseDups_cons]
    by_cases ha : p a = true
    · rw [List.filter_cons_of_pos ha, List.filter_cons_of_pos ha, List.eraseDups_cons,
        ih _ hlt _ rfl, hcomm]
    · rw [List.filter_cons_of_neg ha, List.filter_cons_of_neg ha, ih _ hlt _ rfl, hcomm]
      -- no element that satisfies `p` is `a`
      congr 1
      rw [List.filter_eq_self]
      intro b hb
      have hpb := (List.mem_filter.1 hb).2
      have hne : b ≠ a := by rintro rfl; exact ha hpb
      simp [hne]

theorem eraseDups_eraseDups (l : List β) : l.eraseDups.eraseDups = l.eraseDups := by
  induction hn : l.length using Nat.strongRecOn generalizing l with
  | _ n ih =>
  cases l with
  | nil => rfl
  | cons a l =>
    have hlt : (l.filter fun b => !b == a).length < n := by
      have := List.length_filter_le (fun b => !b == a) l
      rw [List.length_cons] at hn
      omega
    rw [List.eraseDups_cons, List.eraseDups_cons, filter_eraseDups, List.filter_filter]
    simp only [Bool.and_self]
    rw [ih _ hlt _ rfl]

theorem eraseDups_eraseDups_append (l m : List β) :
    (l.eraseDups ++ m).eraseDups = (l ++ m).eraseDups := by
  have hsame : m.removeAll l.eraseDups = m.removeAll l := by
    refine List.filter_congr fun b _ => ?_
    rw [List.elem_eq_contains, List.elem_eq_contains, Bool.eq_iff_iff]
    simp [List.mem_eraseDups]
  rw [List.eraseDups_append, List.eraseDups_append, eraseDups_eraseDups, hsame]

theorem eraseDups_append_eraseDups (l m : List β) :
    (l ++ m.eraseDups).eraseDups = (l ++ m).eraseDups := by
  rw [List.eraseDups_append, List.eraseDups_append, List.removeAll, List.removeAll,
    filter_eraseDups, eraseDups_eraseDups]

/-- Dropping repetitions in the parts first changes nothing. -/
theorem eraseDups_flatMap_eraseDups (f : α → List β) (l : List α) :
    (l.flatMap fun a => (f a).eraseDups).eraseDups = (l.flatMap f).eraseDups := by
  induction l with
  | nil => rfl
  | cons a l ih =>
    rw [List.flatMap_cons, List.flatMap_cons, eraseDups_eraseDups_append,
      ← eraseDups_append_eraseDups, ih, eraseDups_append_eraseDups]

end EraseDups

/-! ### Mentions of nodes -/

namespace TypeNode

variable {ρ : Type}

@[simp] theorem refs_mapRefs (f : ρ → σ) (node : TypeNode ρ) :
    (node.mapRefs f).refs = node.refs.map f := by
  cases node
  rfl

@[simp] theorem refs_withRaw (node : TypeNode ρ) (raw : Text) :
    (node.withRaw raw).refs = node.refs :=
  rfl

/-- The optional form of a type mentions what the type mentions. -/
@[simp] theorem refs_optionalOf (node : TypeNode ρ) : node.optionalOf.refs = node.refs := by
  rw [optionalOf]
  split <;> rfl

/-- Whether a type gives up no mention with its optional wrapper. -/
def WrapsRefs (node : TypeNode ρ) : Prop := node.stripOptional.refs = node.refs

theorem wrapsRefs_of_kind_ne {node : TypeNode ρ} (h : node.kind ≠ .optional) :
    node.WrapsRefs := by
  unfold WrapsRefs stripOptional
  split
  · exact absurd ‹_› h
  · rfl

theorem WrapsRefs.withRaw {node : TypeNode ρ} (h : node.WrapsRefs) (raw : Text) :
    (node.withRaw raw).WrapsRefs := by
  obtain ⟨r, kind, name, parts, refs, optional⟩ := node
  cases kind <;> cases parts <;> exact h

theorem WrapsRefs.optionalOf {node : TypeNode ρ} (h : node.WrapsRefs) :
    node.optionalOf.WrapsRefs := by
  unfold TypeNode.optionalOf
  split
  · exact h
  · rfl

end TypeNode

theorem Sketch.mem_mergedRefs {sketches : List Sketch} {name : Text} :
    name ∈ Sketch.mergedRefs sketches ↔ ∃ s ∈ sketches, name ∈ s.refs := by
  rw [Sketch.mergedRefs, List.mem_eraseDups, List.mem_flatMap]

namespace TypeExpr

/-! ### Mentions of readings -/

theorem Form.pieces_map {α β : Type} (g : α → β) (f : Form α) :
    (f.map g).pieces = f.pieces.map g := by
  cases f <;> rfl

/-- Induction over a text by the pieces that are read for it. -/
theorem pieces_induction (v : Vocabulary) {P : Text → Prop}
    (h : ∀ t, (∀ piece ∈ (form v t).pieces, P piece) → P t) (t : Text) : P t := by
  apply h
  intro piece hpiece
  exact pieces_induction v h piece
termination_by t.length
decreasing_by exact length_lt_of_mem_pieces hpiece

/-- **Induction over readings**: a property that passes from the pieces of every form to their
combination holds of every reading. -/
theorem read_induction (v : Vocabulary) {P : Reading → Prop}
    (h : ∀ (t : Text) (f : Form Reading), (∀ r ∈ f.pieces, P r) → P (combine v t f)) (t : Text) :
    P (read v t) := by
  refine pieces_induction v (P := fun t => P (read v t)) (fun t ih => ?_) t
  rw [read_eq]
  apply h
  intro r hr
  rw [Form.pieces_map] at hr
  obtain ⟨piece, hp, rfl⟩ := List.mem_map.1 hr
  exact ih piece hp

/-- A reading mentions at its top exactly the names that it asks to resolve, also when it gives up
an optional wrapper. -/
structure Reading.Complete (r : Reading) : Prop where
  mem_refs_iff : ∀ name, name ∈ r.sketch.refs ↔ name ∈ r.mentions
  wraps : r.sketch.WrapsRefs

theorem Reading.mem_allMentions {readings : List Reading} {name : Text} :
    name ∈ Reading.allMentions readings ↔ ∃ r ∈ readings, name ∈ r.mentions := by
  rw [Reading.allMentions, List.mem_flatMap]

/-- Merged mentions of complete readings are the names to resolve in any of them. -/
theorem mem_mergedRefs_map_iff {readings : List Reading} (h : ∀ r ∈ readings, r.Complete)
    (name : Text) :
    name ∈ Sketch.mergedRefs (readings.map (·.sketch)) ↔ name ∈ Reading.allMentions readings := by
  rw [Sketch.mem_mergedRefs, Reading.mem_allMentions]
  constructor
  · rintro ⟨s, hs, hn⟩
    obtain ⟨r, hr, rfl⟩ := List.mem_map.1 hs
    exact ⟨r, hr, ((h r hr).mem_refs_iff name).1 hn⟩
  · rintro ⟨r, hr, hn⟩
    exact ⟨r.sketch, List.mem_map_of_mem hr, ((h r hr).mem_refs_iff name).2 hn⟩

theorem readName_complete (v : Vocabulary) (raw name : Text) : (readName v raw name).Complete := by
  rw [readName]
  split
  · exact ⟨fun _ => Iff.rfl, rfl⟩
  · exact ⟨fun _ => Iff.rfl, rfl⟩

theorem headKind_ne_optional (v : Vocabulary) (name : Text) (head : Head) :
    headKind v name head ≠ .optional := by
  cases head with
  | named =>
    rw [headKind, readName]
    split <;> exact nofun
  | _ => exact nofun

theorem genericReading_complete (v : Vocabulary) (raw : Text) (head : Head) (name : Text)
    {arguments : List Reading} (h : ∀ r ∈ arguments, r.Complete) :
    (genericReading v raw head name arguments).Complete := by
  refine ⟨fun n => ?_, TypeNode.wrapsRefs_of_kind_ne (headKind_ne_optional v name head)⟩
  have hargs := mem_mergedRefs_map_iff h n
  rw [Sketch.mem_mergedRefs] at hargs
  simp only [genericReading, Sketch.mem_mergedRefs, List.exists_mem_cons_iff, List.mem_append]
  rw [hargs, or_comm]
  cases head with
  | named => exact or_congr_right ((readName_complete v name name).mem_refs_iff n)
  | _ => exact Iff.rfl

/-- Every combination of complete readings is complete. -/
theorem combine_complete (v : Vocabulary) (t : Text) (f : Form Reading)
    (h : ∀ r ∈ f.pieces, r.Complete) : (combine v t f).Complete := by
  cases f with
  | enclosed inner =>
    obtain ⟨hi, hw⟩ := h inner (List.mem_singleton_self _)
    exact ⟨hi, hw.withRaw t⟩
  | optional inner =>
    obtain ⟨hi, hw⟩ := h inner (List.mem_singleton_self _)
    refine ⟨fun name => ?_, hw.optionalOf.withRaw t⟩
    simp only [combine, TypeNode.refs_withRaw, TypeNode.refs_optionalOf]
    exact hi name
  | array inner =>
    exact ⟨(h inner (List.mem_singleton_self _)).mem_refs_iff, rfl⟩
  | function mentioned => exact ⟨mem_mergedRefs_map_iff h, rfl⟩
  | union alternatives =>
    refine ⟨fun name => ?_, rfl⟩
    -- the wrapper that an alternative gives up holds no mention of its own
    have hstrip : (alternatives.map (·.sketch)).map (·.stripOptional.refs) =
        (alternatives.map (·.sketch)).map (·.refs) := by
      rw [List.map_map, List.map_map]
      exact List.map_congr_left fun r hr => (h r hr).wraps
    have hmerged := mem_mergedRefs_map_iff h name
    rw [Sketch.mergedRefs, List.flatMap_def, Form.pieces, ← hstrip] at hmerged
    simp only [combine, unionSketch, Sketch.mergedRefs, List.flatMap_def]
    rw [← hmerged, List.map_map]
    rfl
  | generic head name arguments => exact genericReading_complete v t head name h
  | malformed head name =>
    cases head with
    | named =>
      obtain ⟨hi, hw⟩ := readName_complete v t name
      exact ⟨hi, hw⟩
    | _ => exact ⟨fun _ => Iff.rfl, rfl⟩
  | dotted => exact readName_complete v t t
  | _ => exact ⟨fun _ => Iff.rfl, rfl⟩

theorem read_complete (v : Vocabulary) (t : Text) : (read v t).Complete :=
  read_induction v (combine_complete v) t

/-- **No mention is lost and none is added**: a type mentions at its top exactly the names that have
to be resolved for it. -/
theorem mem_refs_read_iff (v : Vocabulary) (t name : Text) :
    name ∈ (read v t).sketch.refs ↔ name ∈ (read v t).mentions :=
  (read_complete v t).mem_refs_iff name

end TypeExpr

end LuaAtlas
