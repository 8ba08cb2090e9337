import LuaAtlas.Proofs.TypeExpr.Mentions
import Mathlib.Logic.Relation

/-!
# Types inside types

`TypeNode.Contains` says that a node stands somewhere inside a type, and `TypeExpr.Inside` that a
text is read somewhere inside another.  Whatever is mentioned below is mentioned above, on both
sides: a node inside a type that was read mentions only what the type itself mentions
(`refs_subset_of_contains`), and a text that is read on the way mentions only what the whole text
mentions (`mentions_read_subset`).

So a type is known up to its mentions when it is known what its top mentions become
(`mapRefs_read_congr`).
-/

namespace LuaAtlas

namespace TypeNode

variable {ρ σ τ : Type}

/-- Induction over a type by its parts. -/
theorem parts_induction {P : TypeNode ρ → Prop}
    (step : ∀ node, (∀ p ∈ node.parts, P p) → P node) (node : TypeNode ρ) : P node := by
  apply step
  intro p hp
  exact parts_induction step p
termination_by sizeOf node
decreasing_by
  have hlt := List.sizeOf_lt_of_mem hp
  cases node
  simp only [TypeNode.mk.sizeOf_spec] at hlt ⊢
  omega

@[simp] theorem parts_mapRefs (f : ρ → σ) (node : TypeNode ρ) :
    (node.mapRefs f).parts = node.parts.map (mapRefs f) := by
  cases node
  rw [mapRefs, mapRefsList_eq_map]

theorem mapRefs_withRaw (f : ρ → σ) (node : TypeNode ρ) (raw : Text) :
    (node.withRaw raw).mapRefs f = (node.mapRefs f).withRaw raw := by
  cases node
  rfl

@[simp] theorem kind_mapRefs (f : ρ → σ) (node : TypeNode ρ) :
    (node.mapRefs f).kind = node.kind := by
  cases node
  rfl

@[simp] theorem raw_mapRefs (f : ρ → σ) (node : TypeNode ρ) :
    (node.mapRefs f).raw = node.raw := by
  cases node
  rfl

@[simp] theorem optional_mapRefs (f : ρ → σ) (node : TypeNode ρ) :
    (node.mapRefs f).optional = node.optional := by
  cases node
  rfl

@[simp] theorem name_mapRefs (f : ρ → σ) (node : TypeNode ρ) :
    (node.mapRefs f).name = node.name := by
  cases node
  rfl

theorem mapRefs_optionalOf (f : ρ → σ) (node : TypeNode ρ) :
    node.optionalOf.mapRefs f = (node.mapRefs f).optionalOf := by
  rw [optionalOf, optionalOf, optional_mapRefs]
  split
  · rfl
  · cases node
    rfl

theorem mapRefs_stripOptional (f : ρ → σ) (node : TypeNode ρ) :
    node.stripOptional.mapRefs f = (node.mapRefs f).stripOptional := by
  obtain ⟨raw, kind, name, parts, refs, optional⟩ := node
  cases kind <;> cases parts <;> rfl

theorem mapRefs_mapRefs (f : ρ → σ) (g : σ → τ) (node : TypeNode ρ) :
    (node.mapRefs f).mapRefs g = node.mapRefs (g ∘ f) := by
  induction node using parts_induction with
  | step node ih =>
  obtain ⟨raw, kind, name, parts, refs, optional⟩ := node
  simp only [mapRefs, mapRefsList_eq_map, List.map_map, TypeNode.mk.injEq, true_and, and_true]
  exact List.map_congr_left ih

theorem mapRefs_id (node : TypeNode ρ) : node.mapRefs id = node := by
  induction node using parts_induction with
  | step node ih =>
  obtain ⟨raw, kind, name, parts, refs, optional⟩ := node
  have hparts : parts.map (mapRefs id) = parts := by
    conv_rhs => rw [← List.map_id parts]
    exact List.map_congr_left ih
  rw [mapRefs, mapRefsList_eq_map, hparts, List.map_id]

/-! ### Containing -/

/-- The types that stand inside a type: the type itself, and the parts of those that do. -/
inductive Contains (whole : TypeNode ρ) : TypeNode ρ → Prop
  | self : Contains whole whole
  | part {node p : TypeNode ρ} (h : Contains whole node) (hp : p ∈ node.parts) : Contains whole p

variable {whole node p : TypeNode ρ}

theorem Contains.of_part (hp : p ∈ whole.parts) (h : p.Contains node) : whole.Contains node := by
  induction h with
  | self => exact .part .self hp
  | part h hq ih => exact .part ih hq

/-- A type inside a type is the type itself or stands inside one of its parts. -/
theorem contains_iff : whole.Contains node ↔ node = whole ∨ ∃ p ∈ whole.parts, p.Contains node := by
  constructor
  · intro h
    induction h with
    | self => exact Or.inl rfl
    | part h hq ih =>
      rcases ih with rfl | ⟨p, hp, hnode⟩
      · exact Or.inr ⟨_, hq, .self⟩
      · exact Or.inr ⟨p, hp, .part hnode hq⟩
  · rintro (rfl | ⟨p, hp, hnode⟩)
    · exact .self
    · exact .of_part hp hnode

/-- Replacing mentions goes through to every type inside. -/
theorem Contains.exists_of_mapRefs {f : ρ → σ} {node : TypeNode σ}
    (h : (whole.mapRefs f).Contains node) : ∃ n, whole.Contains n ∧ node = n.mapRefs f := by
  induction h with
  | self => exact ⟨whole, .self, rfl⟩
  | part h hp ih =>
    obtain ⟨n, hn, rfl⟩ := ih
    rw [parts_mapRefs, List.mem_map] at hp
    obtain ⟨p, hp, rfl⟩ := hp
    exact ⟨p, .part hn hp, rfl⟩

/-- Replacements that agree on every mention inside a type agree on the type. -/
theorem mapRefs_congr {f g : ρ → σ} (whole : TypeNode ρ)
    (h : ∀ node, whole.Contains node → ∀ r ∈ node.refs, f r = g r) :
    whole.mapRefs f = whole.mapRefs g := by
  induction whole using parts_induction with
  | step whole ih =>
  have hparts : ∀ p ∈ whole.parts, p.mapRefs f = p.mapRefs g :=
    fun p hp => ih p hp fun node hnode => h node (.of_part hp hnode)
  have hrefs := List.map_congr_left (h whole .self)
  obtain ⟨raw, kind, name, parts, refs, optional⟩ := whole
  simp only [mapRefs, mapRefsList_eq_map, TypeNode.mk.injEq, true_and, and_true]
  exact ⟨List.map_congr_left hparts, hrefs⟩

/-! ### Gathering -/

/-- Every type inside a type mentions what its own parts mention. -/
def Gathers (whole : TypeNode ρ) : Prop :=
  ∀ node, whole.Contains node → ∀ p ∈ node.parts, p.refs ⊆ node.refs

theorem gathers_iff :
    whole.Gathers ↔ ∀ p ∈ whole.parts, p.refs ⊆ whole.refs ∧ p.Gathers := by
  constructor
  · intro h p hp
    exact ⟨h whole .self p hp, fun node hnode => h node (.of_part hp hnode)⟩
  · intro h node hnode
    rcases contains_iff.1 hnode with rfl | ⟨p, hp, hnode⟩
    · exact fun p hp => (h p hp).1
    · exact (h p hp).2 node hnode

/-- What is mentioned anywhere inside such a type is mentioned at its top. -/
theorem Gathers.refs_subset (h : whole.Gathers) (hnode : whole.Contains node) :
    node.refs ⊆ whole.refs := by
  induction hnode with
  | self => exact fun _ hr => hr
  | part hnode hp ih => exact fun _ hr => ih (h _ hnode _ hp hr)

theorem gathers_of_parts_eq_nil (h : whole.parts = []) : whole.Gathers := by
  rw [gathers_iff, h]
  exact nofun

theorem Gathers.withRaw (h : whole.Gathers) (raw : Text) : (whole.withRaw raw).Gathers := by
  rw [gathers_iff] at h ⊢
  exact h

theorem Gathers.optionalOf (h : whole.Gathers) : whole.optionalOf.Gathers := by
  unfold TypeNode.optionalOf
  split
  · exact h
  · rw [gathers_iff]
    intro p hp
    rw [List.mem_singleton] at hp
    subst hp
    exact ⟨fun _ hr => hr, h⟩

theorem Gathers.stripOptional (h : whole.Gathers) : whole.stripOptional.Gathers := by
  unfold TypeNode.stripOptional
  split
  · rename_i inner rest hkind hparts
    exact (gathers_iff.1 h inner (hparts ▸ List.mem_cons_self ..)).2
  · exact h

theorem Gathers.mapRefs (h : whole.Gathers) (f : ρ → σ) : (whole.mapRefs f).Gathers := by
  intro node hnode p hp
  obtain ⟨n, hn, rfl⟩ := hnode.exists_of_mapRefs
  rw [parts_mapRefs, List.mem_map] at hp
  obtain ⟨q, hq, rfl⟩ := hp
  rw [refs_mapRefs, refs_mapRefs]
  exact List.map_subset f (h n hn q hq)

end TypeNode

/-- A type whose mentions are merged from its parts gathers them. -/
theorem Sketch.gathers_of_mergedRefs {sketch : Sketch} (own : List Sketch)
    (hrefs : sketch.refs = Sketch.mergedRefs (own ++ sketch.parts))
    (hparts : ∀ p ∈ sketch.parts, p.Gathers) : sketch.Gathers := by
  rw [TypeNode.gathers_iff]
  refine fun p hp => ⟨fun name hname => ?_, hparts p hp⟩
  rw [hrefs, Sketch.mem_mergedRefs]
  exact ⟨p, List.mem_append_right own hp, hname⟩

namespace TypeExpr

/-! ### Readings -/

/-- Every combination of readings that gather mentions does so too. -/
theorem gathers_combine (v : Vocabulary) (t : Text) (f : Form Reading)
    (h : ∀ r ∈ f.pieces, r.sketch.Gathers) : (combine v t f).sketch.Gathers := by
  have hname (raw name : Text) : (readName v raw name).sketch.Gathers := by
    rw [readName]
    split <;> exact TypeNode.gathers_of_parts_eq_nil rfl
  cases f with
  | enclosed inner => exact (h inner (List.mem_singleton_self _)).withRaw t
  | optional inner => exact (h inner (List.mem_singleton_self _)).optionalOf.withRaw t
  | array inner =>
    rw [TypeNode.gathers_iff]
    intro p hp
    obtain rfl := List.mem_singleton.1 hp
    exact ⟨fun _ hr => hr, h inner (List.mem_singleton_self _)⟩
  | union alternatives =>
    refine Sketch.gathers_of_mergedRefs [] rfl fun p hp => ?_
    -- the parts are the alternatives without their optional wrappers
    obtain ⟨s, hs, rfl⟩ := List.mem_map.1 hp
    obtain ⟨r, hr, rfl⟩ := List.mem_map.1 hs
    exact (h r hr).stripOptional
  | generic head name arguments =>
    refine Sketch.gathers_of_mergedRefs [_] rfl fun p hp => ?_
    obtain ⟨r, hr, rfl⟩ := List.mem_map.1 hp
    exact h r hr
  | malformed head name =>
    cases head with
    | named => exact hname t name
    | _ => exact TypeNode.gathers_of_parts_eq_nil rfl
  | dotted => exact hname t t
  | _ => exact TypeNode.gathers_of_parts_eq_nil rfl

theorem gathers_read (v : Vocabulary) (t : Text) : (read v t).sketch.Gathers :=
  read_induction v (gathers_combine v) t

/-- **A type that was read mentions at its top what any type inside it mentions.** -/
theorem refs_subset_of_contains {v : Vocabulary} {t : Text} {node : Sketch}
    (h : (read v t).sketch.Contains node) : node.refs ⊆ (read v t).sketch.refs :=
  (gathers_read v t).refs_subset h

/-- A type that was read is fixed by what becomes of the names that it asks to resolve. -/
theorem mapRefs_read_congr {v : Vocabulary} {t : Text} {σ : Type} {f g : Text → σ}
    (h : ∀ name ∈ (read v t).mentions, f name = g name) :
    (read v t).sketch.mapRefs f = (read v t).sketch.mapRefs g := by
  refine TypeNode.mapRefs_congr _ fun node hnode name hname => h name ?_
  exact (mem_refs_read_iff v t name).1 (refs_subset_of_contains hnode hname)

/-! ### Texts inside texts -/

/-- **The texts that are read on the way to a type**: the text itself and, again and again, the
pieces of its forms, be they alternatives, arguments, or parameters and results of functions. -/
def Inside (v : Vocabulary) : Text → Text → Prop :=
  Relation.ReflTransGen fun t piece => piece ∈ (form v t).pieces

/-- A combination asks to resolve whatever one of its pieces asks for. -/
theorem mentions_subset_combine (v : Vocabulary) (t : Text) {f : Form Reading} {r : Reading}
    (h : r ∈ f.pieces) : r.mentions ⊆ (combine v t f).mentions := by
  have hall {readings : List Reading} (hr : r ∈ readings) :
      r.mentions ⊆ Reading.allMentions readings :=
    fun name hname => Reading.mem_allMentions.2 ⟨r, hr, hname⟩
  cases f with
  | enclosed inner | optional inner | array inner =>
    obtain rfl := List.mem_singleton.1 h
    exact fun _ hname => hname
  | function mentioned => exact hall h
  | union alternatives => exact hall h
  | generic head name arguments => exact fun _ hname => List.mem_append_left _ (hall h hname)
  | _ => cases h

/-- **No name is lost on the way up**: what a text mentions that is read inside another is mentioned
by the whole. -/
theorem mentions_read_subset {v : Vocabulary} {t piece : Text} (h : Inside v t piece) :
    (read v piece).mentions ⊆ (read v t).mentions := by
  induction h with
  | refl => exact fun _ hname => hname
  | tail hinside hpiece ih =>
    refine fun name hname => ih ?_
    rw [read_eq]
    refine mentions_subset_combine v _ ?_ hname
    rw [Form.pieces_map]
    exact List.mem_map_of_mem hpiece

end TypeExpr

end LuaAtlas
