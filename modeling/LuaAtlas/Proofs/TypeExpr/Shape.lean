import LuaAtlas.Proofs.Draft.TypeReading
import LuaAtlas.Proofs.TypeExpr.Tree

/-!
# The shape of types that were read

Whatever text is read, the tree that comes out is well shaped at every node (`WellShaped`): an
optional type wraps exactly one type and never another optional one, a union has two parts or more
and none of them is optional, containers have no part or as many as they take, the mark of
optionality stands where the kind allows it, and a node mentions what its parts mention, and itself
if it is a symbol.  The main statement is `readType_wellShaped`.

Texts have regular forms only (`regular_form`): this is where the number of alternatives and
arguments comes from.  `throughout_combine` then goes over the forms once, and the induction over
the pieces of a text (`pieces_induction`) carries the shape up to the whole.
-/

namespace LuaAtlas

namespace TypeNode

variable {ρ σ : Type} {mention : Text → ρ} {P : TypeNode ρ → Prop} {whole node : TypeNode ρ}

/-! ### Well-shaped nodes -/

/-- The parts that a type of a kind may have.  The parts of names are as many as were written. -/
def PartsFit : TypeKind → List (TypeNode ρ) → Prop
  | .optional, parts =>
    ∃ inner, parts = [inner] ∧ inner.kind ≠ .optional ∧ inner.optional = false
  | .union, parts => 2 ≤ parts.length ∧ ∀ p ∈ parts, p.kind ≠ .optional
  | .function, parts => parts = []
  | .array, parts => parts.length = 0 ∨ parts.length = 1
  | .set, parts => parts.length = 0 ∨ parts.length = 1
  | .map, parts => parts.length = 0 ∨ parts.length = 2
  | .primitive, _ => True
  | .reference, _ => True

/-- **A well-shaped node**, where `mention` makes a mention of a name. -/
structure WellShaped (mention : Text → ρ) (node : TypeNode ρ) : Prop where
  parts : PartsFit node.kind node.parts
  /-- Only optional types and unions admit the absence of a value. -/
  kind_of_optional : node.optional = true → node.kind = .optional ∨ node.kind = .union
  optional_of_kind : node.kind = .optional → node.optional = true
  /-- A function type keeps no parts, so its mentions are those of the types that it was read
  from. -/
  mem_refs_iff : node.kind ≠ .function → ∀ r, r ∈ node.refs ↔
    (∃ p ∈ node.parts, r ∈ p.refs) ∨ (node.kind = .reference ∧ r = mention node.name)
  nodup_refs : node.refs.Nodup

theorem WellShaped.withRaw (h : node.WellShaped mention) (raw : Text) :
    (node.withRaw raw).WellShaped mention :=
  ⟨h.parts, h.kind_of_optional, h.optional_of_kind, h.mem_refs_iff, h.nodup_refs⟩

/-- A type that does not admit the absence of a value is well shaped if its parts and its mentions
are as they should be. -/
theorem wellShaped_of_definite {kind : TypeKind} (hkind : kind ≠ .optional)
    (hnode : node.kind = kind) (hoptional : node.optional = false)
    (hparts : PartsFit node.kind node.parts)
    (hrefs : node.kind ≠ .function → ∀ r, r ∈ node.refs ↔
      (∃ p ∈ node.parts, r ∈ p.refs) ∨ (node.kind = .reference ∧ r = mention node.name))
    (hnodup : node.refs.Nodup) : node.WellShaped mention := by
  refine ⟨hparts, fun h => ?_, fun h => absurd (hnode.symm.trans h) hkind, hrefs, hnodup⟩
  rw [hoptional] at h
  cases h

/-- A type without parts and mentions is well shaped if its kind asks for neither. -/
theorem wellShaped_leaf (kind : TypeKind)
    (hkind : kind ≠ .optional ∧ kind ≠ .union ∧ kind ≠ .reference) (raw name : Text) :
    (leaf raw kind name : TypeNode ρ).WellShaped mention := by
  obtain ⟨hoptional, hunion, hreference⟩ := hkind
  refine wellShaped_of_definite hoptional rfl rfl ?_ (fun _ r => ?_) List.nodup_nil
  · show PartsFit kind []
    cases kind with
    | optional => exact absurd rfl hoptional
    | union => exact absurd rfl hunion
    | array | set | map => exact Or.inl rfl
    | function => rfl
    | primitive | reference => trivial
  · constructor
    · exact nofun
    · rintro (⟨p, hp, -⟩ | ⟨h, -⟩)
      · exact absurd hp List.not_mem_nil
      · exact absurd h hreference

/-- The optional form of a well-shaped type is well shaped: what it wraps is not optional. -/
theorem WellShaped.optionalOf (h : node.WellShaped mention) :
    node.optionalOf.WellShaped mention := by
  unfold TypeNode.optionalOf
  split
  · exact h
  · rename_i hopt
    have hkind : node.kind ≠ .optional := fun hk => hopt (h.optional_of_kind hk)
    refine ⟨⟨node, rfl, hkind, by simpa using hopt⟩, fun _ => Or.inl rfl, fun _ => rfl,
      fun _ r => ?_, h.nodup_refs⟩
    show r ∈ node.refs ↔ _
    simp

/-- **A well-shaped type of the optional kind has the part that it gives up**, and what is left is
not optional. -/
theorem WellShaped.stripOptional (h : node.WellShaped mention) (hk : node.kind = .optional) :
    node.parts = [node.stripOptional] ∧ node.stripOptional.kind ≠ .optional := by
  have hparts := h.parts
  rw [hk] at hparts
  obtain ⟨inner, hinner, hkind, -⟩ := hparts
  have hstrip : node.stripOptional = inner := by
    unfold TypeNode.stripOptional
    rw [hk, hinner]
  rw [hstrip]
  exact ⟨hinner, hkind⟩

theorem WellShaped.kind_stripOptional (h : node.WellShaped mention) :
    node.stripOptional.kind ≠ .optional := by
  by_cases hk : node.kind = .optional
  · exact (h.stripOptional hk).2
  · unfold TypeNode.stripOptional
    split
    · rename_i hopt _
      exact absurd hopt hk
    · exact hk

theorem PartsFit.mapRefs (f : ρ → σ) {kind : TypeKind} {parts : List (TypeNode ρ)}
    (h : PartsFit kind parts) : PartsFit kind (parts.map (TypeNode.mapRefs f)) := by
  cases kind with
  | optional =>
    obtain ⟨inner, rfl, hkind, hopt⟩ := h
    exact ⟨inner.mapRefs f, rfl, by simpa using hkind, by simpa using hopt⟩
  | union =>
    refine ⟨by simpa using h.1, fun p hp => ?_⟩
    obtain ⟨q, hq, rfl⟩ := List.mem_map.1 hp
    rw [kind_mapRefs]
    exact h.2 q hq
  | function =>
    obtain rfl : parts = [] := h
    rfl
  | array | set | map => simpa [PartsFit] using h
  | primitive | reference => trivial

/-- Numbers in the place of names leave the shape as it is. -/
theorem WellShaped.mapRefs (h : node.WellShaped mention) {f : ρ → σ}
    (hf : Function.Injective f) : (node.mapRefs f).WellShaped (f ∘ mention) := by
  refine ⟨?_, ?_, ?_, fun hk r => ?_, ?_⟩
  · rw [kind_mapRefs, parts_mapRefs]
    exact h.parts.mapRefs f
  · rw [optional_mapRefs, kind_mapRefs]
    exact h.kind_of_optional
  · rw [optional_mapRefs, kind_mapRefs]
    exact h.optional_of_kind
  · rw [kind_mapRefs] at hk ⊢
    have hmem := h.mem_refs_iff hk
    simp only [refs_mapRefs, parts_mapRefs, name_mapRefs, List.mem_map, Function.comp_apply]
    constructor
    · rintro ⟨a, ha, rfl⟩
      rcases (hmem a).1 ha with ⟨p, hp, hr⟩ | ⟨hk, rfl⟩
      · exact Or.inl ⟨p.mapRefs f, ⟨p, hp, rfl⟩, by simpa using ⟨a, hr, rfl⟩⟩
      · exact Or.inr ⟨hk, rfl⟩
    · rintro (⟨_, ⟨p, hp, rfl⟩, hr⟩ | ⟨hk, rfl⟩)
      · rw [refs_mapRefs] at hr
        obtain ⟨a, ha, rfl⟩ := List.mem_map.1 hr
        exact ⟨a, (hmem a).2 (Or.inl ⟨p, hp, ha⟩), rfl⟩
      · exact ⟨_, (hmem _).2 (Or.inr ⟨hk, rfl⟩), rfl⟩
  · rw [refs_mapRefs]
    exact h.nodup_refs.map hf

/-! ### Properties of every type inside -/

/-- A property holds of every type inside a type. -/
def Throughout (P : TypeNode ρ → Prop) (whole : TypeNode ρ) : Prop :=
  ∀ node, whole.Contains node → P node

theorem throughout_iff : whole.Throughout P ↔ P whole ∧ ∀ p ∈ whole.parts, p.Throughout P := by
  constructor
  · intro h
    exact ⟨h whole .self, fun p hp node hnode => h node (.of_part hp hnode)⟩
  · rintro ⟨hwhole, hparts⟩ node hnode
    rcases contains_iff.1 hnode with rfl | ⟨p, hp, hnode⟩
    · exact hwhole
    · exact hparts p hp node hnode

theorem Throughout.self (h : whole.Throughout P) : P whole := h whole .self

/-- What gives up its optional wrapper stands inside the type. -/
theorem Throughout.stripOptional (h : whole.Throughout P) : whole.stripOptional.Throughout P := by
  unfold TypeNode.stripOptional
  split
  · rename_i inner rest hkind hparts
    exact (throughout_iff.1 h).2 inner (hparts ▸ List.mem_cons_self ..)
  · exact h

theorem throughout_leaf {kind : TypeKind} {raw name : Text} (h : P (leaf raw kind name)) :
    (leaf raw kind name).Throughout P :=
  throughout_iff.2 ⟨h, nofun⟩

end TypeNode

namespace TypeExpr

open TypeNode (WellShaped Throughout)

variable {v : Vocabulary} {t : Text}

/-! ### Regular forms -/

/-- **The forms that a text can have**: a union has two alternatives or more, and a container with
arguments has as many as it takes. -/
def Form.Regular {α : Type} : Form α → Prop
  | .union alternatives => 2 ≤ alternatives.length
  | .generic head _ arguments => head.arity?.all (· == arguments.length)
  | _ => True

theorem Form.Regular.map {α β : Type} {f : Form α} (h : f.Regular) (g : α → β) :
    (f.map g).Regular := by
  cases f with
  | union alternatives => simpa [Form.Regular, Form.map] using h
  | generic head name arguments => simpa [Form.Regular, Form.map] using h
  | _ => trivial

theorem regular_plainForm (v : Vocabulary) (t : Text) : (plainForm v t).Regular := by
  unfold plainForm
  split
  · unfold genericForm
    split
    · split
      · rename_i hsuits
        exact (Bool.and_eq_true_iff.1 hsuits).2
      · trivial
    · trivial
  · split
    · trivial
    · split <;> trivial

theorem regular_suffixForm (v : Vocabulary) (t : Text) : (suffixForm v t).Regular := by
  unfold suffixForm
  split
  · trivial
  · trivial
  · split
    · split <;> trivial
    · exact regular_plainForm v t

theorem regular_unionForm (v : Vocabulary) (t : Text) : (unionForm v t).Regular := by
  unfold unionForm
  split
  · show 2 ≤ (List.map Text.trim _).length
    simp
  · exact regular_suffixForm v t

theorem regular_form (v : Vocabulary) (t : Text) : (form v t).Regular := by
  unfold form
  split
  · trivial
  · split
    · trivial
    · split
      · split
        · trivial
        · exact regular_unionForm v t
      · exact regular_unionForm v t

/-! ### Combinations -/

theorem wellShaped_readName (v : Vocabulary) (raw name : Text) :
    (readName v raw name).sketch.WellShaped id := by
  unfold readName
  split
  · exact TypeNode.wellShaped_leaf .primitive (by decide) raw name
  · have hkind : TypeKind.reference ≠ .optional := by decide
    refine TypeNode.wellShaped_of_definite hkind rfl rfl trivial (fun _ r => ?_)
      (List.nodup_singleton name)
    simp

theorem throughout_readName (v : Vocabulary) (raw name : Text) :
    (readName v raw name).sketch.Throughout (WellShaped id) := by
  refine TypeNode.throughout_iff.2 ⟨wellShaped_readName v raw name, ?_⟩
  unfold readName
  split <;> exact nofun

/-- The name of a generic type is mentioned exactly if it is a symbol. -/
theorem wellShaped_genericReading (v : Vocabulary) (raw : Text) {head : Head} (name : Text)
    {arguments : List Reading} (harity : head.arity?.all (· == arguments.length)) :
    (genericReading v raw head name arguments).sketch.WellShaped id := by
  refine TypeNode.wellShaped_of_definite (headKind_ne_optional v name head) rfl rfl ?_
    (fun _ r => ?_) (nodup_eraseDups _)
  · show TypeNode.PartsFit (headKind v name head) (arguments.map (·.sketch))
    cases head with
    | array | map | set =>
      simp only [Head.arity?, Option.all_some, beq_iff_eq] at harity
      simp [headKind, TypeNode.PartsFit, ← harity]
    | named =>
      show TypeNode.PartsFit (readName v name name).sketch.kind _
      unfold readName
      split <;> trivial
  · show r ∈ Sketch.mergedRefs (_ :: arguments.map (·.sketch)) ↔ _
    rw [Sketch.mem_mergedRefs, List.exists_mem_cons_iff, or_comm]
    refine or_congr_right ?_
    show _ ↔ headKind v name head = .reference ∧ r = name
    cases head with
    | array | map | set => simp [headKind, TypeNode.leaf]
    | named =>
      show r ∈ (readName v name name).sketch.refs ↔
        (readName v name name).sketch.kind = .reference ∧ r = name
      unfold readName
      split
      · simp [TypeNode.leaf]
      · simp

/-- **Every combination of well-shaped readings by a regular form is well shaped.** -/
theorem throughout_combine (v : Vocabulary) (t : Text) {f : Form Reading} (hf : f.Regular)
    (h : ∀ r ∈ f.pieces, r.sketch.Throughout (WellShaped id)) :
    (combine v t f).sketch.Throughout (WellShaped id) := by
  cases f with
  | empty | literal | unrecognized =>
    exact TypeNode.throughout_leaf (TypeNode.wellShaped_leaf .primitive (by decide) _ _)
  | unclosed =>
    exact TypeNode.throughout_leaf (TypeNode.wellShaped_leaf .function (by decide) _ _)
  | dotted => exact throughout_readName v t t
  | malformed head name =>
    cases head with
    | named => exact throughout_readName v t name
    | array => exact TypeNode.throughout_leaf (TypeNode.wellShaped_leaf .array (by decide) _ _)
    | map => exact TypeNode.throughout_leaf (TypeNode.wellShaped_leaf .map (by decide) _ _)
    | set => exact TypeNode.throughout_leaf (TypeNode.wellShaped_leaf .set (by decide) _ _)
  | enclosed inner =>
    obtain ⟨hinner, hparts⟩ := TypeNode.throughout_iff.1 (h inner (List.mem_singleton_self _))
    exact TypeNode.throughout_iff.2 ⟨hinner.withRaw t, hparts⟩
  | optional inner =>
    have hinner := h inner (List.mem_singleton_self _)
    refine TypeNode.throughout_iff.2 ⟨hinner.self.optionalOf.withRaw t, fun p hp => ?_⟩
    -- the parts of the optional form are those of the type, or the type itself
    show p.Throughout _
    have hp : p ∈ inner.sketch.optionalOf.parts := hp
    unfold TypeNode.optionalOf at hp
    split at hp
    · exact (TypeNode.throughout_iff.1 hinner).2 p hp
    · rw [List.mem_singleton] at hp
      exact hp ▸ hinner
  | array inner =>
    have hinner := h inner (List.mem_singleton_self _)
    have hkind : TypeKind.array ≠ .optional := by decide
    refine TypeNode.throughout_iff.2 ⟨TypeNode.wellShaped_of_definite hkind rfl rfl (Or.inr rfl)
      (fun _ r => ?_) hinner.self.nodup_refs, fun p hp => ?_⟩
    · show r ∈ inner.sketch.refs ↔ _
      simp [combine]
    · rw [List.mem_singleton.1 hp]
      exact hinner
  | function mentioned =>
    have hkind : TypeKind.function ≠ .optional := by decide
    refine TypeNode.throughout_iff.2 ⟨TypeNode.wellShaped_of_definite hkind rfl rfl rfl
      (fun hk => absurd rfl hk) (nodup_eraseDups _), fun p hp => ?_⟩
    exact absurd hp List.not_mem_nil
  | union alternatives =>
    -- an optional alternative gives up its wrapper, so no part is optional
    have hpart : ∀ p ∈ (alternatives.map (·.sketch)).map (·.stripOptional),
        p.kind ≠ .optional ∧ p.Throughout (WellShaped id) := by
      intro p hp
      rw [List.map_map] at hp
      obtain ⟨r, hr, rfl⟩ := List.mem_map.1 hp
      exact ⟨(h r hr).self.kind_stripOptional, (h r hr).stripOptional⟩
    have hkind : TypeKind.union ≠ .optional := by decide
    refine TypeNode.throughout_iff.2 ⟨⟨⟨?_, fun p hp => (hpart p hp).1⟩, fun _ => Or.inr rfl,
      fun hk => absurd hk hkind, fun _ r => ?_, nodup_eraseDups _⟩, fun p hp => (hpart p hp).2⟩
    · simpa [combine, unionSketch, Form.Regular] using hf
    · show r ∈ Sketch.mergedRefs _ ↔ _
      rw [Sketch.mem_mergedRefs]
      simp [combine, unionSketch]
  | generic head name arguments =>
    refine TypeNode.throughout_iff.2 ⟨wellShaped_genericReading v t name hf, fun p hp => ?_⟩
    obtain ⟨r, hr, rfl⟩ := List.mem_map.1 hp
    exact h r hr

theorem throughout_read (v : Vocabulary) (t : Text) :
    (read v t).sketch.Throughout (WellShaped id) := by
  induction t using pieces_induction v with
  | h t ih =>
    rw [read_eq]
    apply throughout_combine v t ((regular_form v t).map _)
    intro r hr
    rw [Form.pieces_map] at hr
    obtain ⟨piece, hpiece, rfl⟩ := List.mem_map.1 hr
    exact ih piece hpiece

/-! ### Texts -/

theorem form_ne_empty (h : t ≠ []) : form v t ≠ .empty := by
  have hplain : plainForm v t ≠ .empty := by
    unfold plainForm genericForm
    split
    · split
      · split <;> exact nofun
      · exact nofun
    · split
      · exact nofun
      · split <;> exact nofun
  have hsuffix : suffixForm v t ≠ .empty := by
    unfold suffixForm
    split
    · exact nofun
    · exact nofun
    · split
      · split <;> exact nofun
      · exact hplain
  have hunion : unionForm v t ≠ .empty := by
    unfold unionForm
    split
    · exact nofun
    · exact hsuffix
  unfold form
  split
  · rename_i hnil
    exact absurd hnil h
  · split
    · exact nofun
    · split
      · split
        · exact nofun
        · exact hunion
      · exact hunion

theorem raw_readName (v : Vocabulary) (raw name : Text) :
    (readName v raw name).sketch.raw = raw := by
  unfold readName
  split <;> rfl

/-- A type keeps the whole text that it was read from. -/
theorem raw_read (v : Vocabulary) (h : t ≠ []) : (read v t).sketch.raw = t := by
  have hne : (form v t).map (read v) ≠ .empty := by
    cases hf : form v t with
    | empty => exact absurd hf (form_ne_empty h)
    | _ => exact nofun
  rw [read_eq]
  cases hf : (form v t).map (read v) with
  | empty => exact absurd hf hne
  | dotted => exact raw_readName v t t
  | malformed head name =>
    cases head with
    | named => exact raw_readName v t name
    | array | map | set => rfl
  | _ => rfl

theorem read_nil (v : Vocabulary) : (read v []).sketch = .primitive "any".toList := by
  rw [read_eq]
  rfl

end TypeExpr

/-! ### Types in a catalogue under construction -/

namespace Draft

/-- **Every type that is read is well shaped**, whatever the text, the vocabulary and the draft.  It
keeps the trimmed text, or is the type `any` if there is none.  Every type inside it is well shaped,
with the numbers of the table for the names.  The parts of a union are its alternatives without
their optional wrappers, and an alternative of the optional kind has exactly the one part that it
gives up. -/
theorem readType_wellShaped (v : Vocabulary) (d : Draft) (type : Text) (file line : Nat) :
    let r := d.readType v type file line
    (Text.trim type ≠ [] → r.2.raw = Text.trim type) ∧
    (Text.trim type = [] → r.2 = .primitive "any".toList) ∧
    (∀ node, r.2.Contains node → node.WellShaped fun name => ⟨name, r.1.table.idOf name⟩) ∧
    ∀ text alternatives, TypeExpr.form v text = .union alternatives →
      (TypeExpr.read v text).sketch.parts =
        alternatives.map (fun a => (TypeExpr.read v a).sketch.stripOptional) ∧
      ∀ a ∈ alternatives, (TypeExpr.read v a).sketch.kind = .optional →
        (TypeExpr.read v a).sketch.parts = [(TypeExpr.read v a).sketch.stripOptional] := by
  intro r
  let refer : Text → Reference := fun name => ⟨name, r.1.table.idOf name⟩
  have hsign : r.2 = (TypeExpr.read v (Text.trim type)).sketch.mapRefs refer :=
    readType_snd v d type file line
  refine ⟨fun h => ?_, fun h => ?_, fun node hnode => ?_, fun text alternatives hform => ?_⟩
  · rw [hsign, TypeNode.raw_mapRefs]
    exact TypeExpr.raw_read v h
  · rw [hsign, h, TypeExpr.read_nil]
    rfl
  · rw [hsign] at hnode
    obtain ⟨n, hn, rfl⟩ := hnode.exists_of_mapRefs
    have hinjective : Function.Injective refer := fun a b hab => congrArg Reference.token hab
    exact (TypeExpr.throughout_read v _ n hn).mapRefs hinjective
  · constructor
    · rw [TypeExpr.read_eq, hform]
      simp [TypeExpr.Form.map, TypeExpr.combine, TypeExpr.unionSketch]
    · intro a _ hkind
      exact ((TypeExpr.throughout_read v a).self.stripOptional hkind).1

end Draft

end LuaAtlas
