import LuaAtlas.Proofs.TypeExpr.Nested

/-!
# Type trees

The types of the usual vocabulary as syntax trees (`TypeTree`), how a tree is written
(`TypeTree.render`) and what it means (`TypeTree.meaning`).  Writing puts parentheses only where a
union or a function with a result would otherwise take in what stands around it.  The meaning is
built up from the meanings of the parts, with any sort of mention in the place of a symbol, so one
definition serves for names alone and for names with numbers (`mapRefs_meaning`).
-/

namespace LuaAtlas

/-- The syntax of types. -/
inductive TypeTree where
  /-- A primitive type. -/
  | prim (name : Text)
  /-- A symbol. -/
  | ref (name : Text)
  | array (inner : TypeTree)
  | optional (inner : TypeTree)
  /-- A container or any other name with type arguments. -/
  | generic (name : Text) (arguments : List TypeTree)
  | union (alternatives : List TypeTree)
  /-- A function type with named parameters, and its result if it has one. -/
  | function (params : List (Text × TypeTree)) (result : Option TypeTree)

namespace TypeTree

/-! ### Writing -/

/-- Whether a type is a function type with a result. -/
def hasResult : TypeTree → Bool
  | function _ (some _) => true
  | _ => false

/-- Whether a type needs parentheses under a suffix and between bars. -/
def isLoose : TypeTree → Bool
  | union _ => true
  | e => e.hasResult

/-- A text in parentheses, if they are needed. -/
def enclose (needed : Bool) (t : Text) : Text := if needed then '(' :: (t ++ [')']) else t

mutual

/-- **A type as it is written.** -/
def render : TypeTree → Text
  | prim name => name
  | ref name => name
  | array inner => enclose inner.isLoose (render inner) ++ ['[', ']']
  | optional inner => enclose inner.isLoose (render inner) ++ ['?']
  | generic name arguments =>
    name ++ '<' :: (Text.join [',', ' '] (renderAll arguments) ++ ['>'])
  | union alternatives => Text.join ['|'] (renderAlternatives alternatives)
  | function params none =>
    'f' :: 'u' :: 'n' :: '(' :: (Text.join [',', ' '] (renderParams params) ++ [')'])
  | function params (some result) =>
    'f' :: 'u' :: 'n' :: '(' :: (Text.join [',', ' '] (renderParams params) ++
      ')' :: ':' :: ' ' :: enclose result.hasResult (render result))

/-- The arguments of a generic type as they are written. -/
def renderAll : List TypeTree → List Text
  | [] => []
  | e :: es => render e :: renderAll es

/-- The alternatives of a union as they are written. -/
def renderAlternatives : List TypeTree → List Text
  | [] => []
  | e :: es => enclose e.isLoose (render e) :: renderAlternatives es

/-- The parameters of a function type as they are written. -/
def renderParams : List (Text × TypeTree) → List Text
  | [] => []
  | (name, e) :: params => (name ++ ':' :: ' ' :: render e) :: renderParams params

end

/-- A type as it is written under a suffix and between bars. -/
def renderPart (e : TypeTree) : Text := enclose e.isLoose e.render

theorem renderAll_eq_map (es : List TypeTree) : renderAll es = es.map render := by
  induction es with
  | nil => rfl
  | cons e es ih => rw [renderAll, ih, List.map_cons]

theorem renderAlternatives_eq_map (es : List TypeTree) :
    renderAlternatives es = es.map renderPart := by
  induction es with
  | nil => rfl
  | cons e es ih => rw [renderAlternatives, ih, List.map_cons, renderPart]

theorem renderParams_eq_map (params : List (Text × TypeTree)) :
    renderParams params = params.map fun p => p.1 ++ ':' :: ' ' :: p.2.render := by
  induction params with
  | nil => rfl
  | cons p params ih => rw [renderParams, ih, List.map_cons]

/-! ### Well-formed trees -/

/-- **The trees of the usual vocabulary.**  A primitive is one of the primitive names and a symbol
is none of them; a container has as many arguments as it takes; a union has two alternatives or
more. -/
inductive WellFormed : TypeTree → Prop
  | prim {name : Text} (h : name ∈ Vocabulary.standard.primitives) : WellFormed (.prim name)
  | ref {name : Text} (hd : Name.isDotted name = true) (ht : Literal.isTruth name = false)
      (hp : name ∉ Vocabulary.standard.primitives) : WellFormed (.ref name)
  | array {inner : TypeTree} (h : WellFormed inner) : WellFormed (.array inner)
  | optional {inner : TypeTree} (h : WellFormed inner) : WellFormed (.optional inner)
  | generic {name : Text} {arguments : List TypeTree} (hd : Name.isDotted name = true)
      (ht : Literal.isTruth name = false) (hne : arguments ≠ [])
      (harray : name ∈ Vocabulary.standard.arrays → arguments.length = 1)
      (hset : name ∈ Vocabulary.standard.sets → arguments.length = 1)
      (hmap : name ∈ Vocabulary.standard.maps → arguments.length = 2)
      (h : ∀ e ∈ arguments, WellFormed e) : WellFormed (.generic name arguments)
  | union {alternatives : List TypeTree} (hlen : 2 ≤ alternatives.length)
      (h : ∀ e ∈ alternatives, WellFormed e) : WellFormed (.union alternatives)
  | function {params : List (Text × TypeTree)} {result : Option TypeTree}
      (hn : ∀ p ∈ params, Name.isName p.1 = true) (h : ∀ p ∈ params, WellFormed p.2)
      (hr : ∀ e, result = some e → WellFormed e) : WellFormed (.function params result)

/-! ### Meaning -/

/-- What a name with type arguments is; the containers come first. -/
def genericKind (name : Text) : TypeKind :=
  if name ∈ Vocabulary.standard.arrays then .array
  else if name ∈ Vocabulary.standard.maps then .map
  else if name ∈ Vocabulary.standard.sets then .set
  else if name ∈ Vocabulary.standard.primitives then .primitive
  else .reference

mutual

/-- The symbols in a type from left to right; one that occurs again is listed again. -/
def names : TypeTree → List Text
  | prim _ => []
  | ref name => [name]
  | array inner => names inner
  | optional inner => names inner
  | generic name arguments =>
    (if genericKind name = .reference then [name] else []) ++ namesAll arguments
  | union alternatives => namesAll alternatives
  | function params none => namesParams params
  | function params (some result) => namesParams params ++ names result

/-- The symbols in several types. -/
def namesAll : List TypeTree → List Text
  | [] => []
  | e :: es => names e ++ namesAll es

/-- The symbols in the types of parameters. -/
def namesParams : List (Text × TypeTree) → List Text
  | [] => []
  | (_, e) :: params => names e ++ namesParams params

end

theorem namesAll_eq_flatMap (es : List TypeTree) : namesAll es = es.flatMap names := by
  induction es with
  | nil => rfl
  | cons e es ih => rw [namesAll, ih, List.flatMap_cons]

theorem namesParams_eq_flatMap (params : List (Text × TypeTree)) :
    namesParams params = params.flatMap fun p => p.2.names := by
  induction params with
  | nil => rfl
  | cons p params ih => rw [namesParams, ih, List.flatMap_cons]

variable {ρ σ : Type}

/-- The symbols in a type, each once in the order of first mention, as mentions of the sort `ρ`. -/
def refs (mention : Text → ρ) (e : TypeTree) : List ρ := e.names.eraseDups.map mention

mutual

/-- **The meaning of a type**, with `mention n` in the place of the symbol `n`.  Every node keeps
the text it was written as, parentheses included.  A function type has no parts. -/
def meaning (mention : Text → ρ) : TypeTree → TypeNode ρ
  | prim name => ⟨name, .primitive, name, [], [], false⟩
  | ref name => ⟨name, .reference, name, [], [mention name], false⟩
  | array inner =>
    ⟨render (array inner), .array, ['a', 'r', 'r', 'a', 'y'],
      [(meaning mention inner).withRaw inner.renderPart], inner.refs mention, false⟩
  | optional inner =>
    ((meaning mention inner).withRaw inner.renderPart).optionalOf.withRaw (render (optional inner))
  | generic name arguments =>
    ⟨render (generic name arguments), genericKind name, name, meaningAll mention arguments,
      (generic name arguments).refs mention, false⟩
  | union alternatives =>
    ⟨render (union alternatives), .union, ['u', 'n', 'i', 'o', 'n'],
      (meaningAlternatives mention alternatives).map (·.stripOptional),
      (union alternatives).refs mention,
      (meaningAlternatives mention alternatives).any fun a =>
        a.optional || a.name == ['n', 'i', 'l']⟩
  | function params result =>
    ⟨render (function params result), .function, ['f', 'u', 'n', 'c', 't', 'i', 'o', 'n'], [],
      (function params result).refs mention, false⟩

/-- The meanings of the arguments of a generic type. -/
def meaningAll (mention : Text → ρ) : List TypeTree → List (TypeNode ρ)
  | [] => []
  | e :: es => meaning mention e :: meaningAll mention es

/-- The meanings of the alternatives of a union, each under the text it was written as. -/
def meaningAlternatives (mention : Text → ρ) : List TypeTree → List (TypeNode ρ)
  | [] => []
  | e :: es => (meaning mention e).withRaw e.renderPart :: meaningAlternatives mention es

end

/-- The meaning of a type under the text it is written as under a suffix and between bars. -/
def meaningPart (mention : Text → ρ) (e : TypeTree) : TypeNode ρ :=
  (e.meaning mention).withRaw e.renderPart

theorem meaningAll_eq_map (mention : Text → ρ) (es : List TypeTree) :
    meaningAll mention es = es.map (meaning mention) := by
  induction es with
  | nil => rfl
  | cons e es ih => rw [meaningAll, ih, List.map_cons]

theorem meaningAlternatives_eq_map (mention : Text → ρ) (es : List TypeTree) :
    meaningAlternatives mention es = es.map (meaningPart mention) := by
  induction es with
  | nil => rfl
  | cons e es ih => rw [meaningAlternatives, ih, List.map_cons, meaningPart]

/-- The meaning of a type is kept under its whole text. -/
@[simp] theorem raw_meaning (mention : Text → ρ) (e : TypeTree) :
    (e.meaning mention).raw = e.render := by
  cases e <;> rfl

/-- A type mentions its symbols, each once. -/
@[simp] theorem refs_meaning (mention : Text → ρ) (e : TypeTree) :
    (e.meaning mention).refs = e.refs mention := by
  match e with
  | prim name => rfl
  | ref name => rfl
  | array inner => rfl
  | optional inner =>
    rw [meaning, TypeNode.refs_withRaw, TypeNode.refs_optionalOf, TypeNode.refs_withRaw,
      refs_meaning mention inner]
    rfl
  | generic name arguments => rfl
  | union alternatives => rfl
  | function params result => rfl

/-! ### Replacing mentions -/

theorem map_refs (f : ρ → σ) (mention : Text → ρ) (e : TypeTree) :
    (e.refs mention).map f = e.refs (f ∘ mention) := by
  rw [refs, refs, List.map_map]

mutual

/-- **The meaning is the same for every sort of mention.** -/
theorem mapRefs_meaning (f : ρ → σ) (mention : Text → ρ) (e : TypeTree) :
    (e.meaning mention).mapRefs f = e.meaning (f ∘ mention) := by
  match e with
  | prim name => rfl
  | ref name => rfl
  | array inner =>
    simp only [meaning, TypeNode.mapRefs, TypeNode.mapRefsList, TypeNode.mapRefs_withRaw,
      mapRefs_meaning f mention inner, map_refs]
  | optional inner =>
    simp only [meaning, TypeNode.mapRefs_withRaw, TypeNode.mapRefs_optionalOf,
      mapRefs_meaning f mention inner]
  | generic name arguments =>
    simp only [meaning, TypeNode.mapRefs, TypeNode.mapRefsList_eq_map,
      mapRefs_meaningAll f mention arguments, map_refs]
  | union alternatives =>
    have hparts := mapRefs_meaningAlternatives f mention alternatives
    simp only [meaning, TypeNode.mapRefs, TypeNode.mapRefsList_eq_map, map_refs, ← hparts,
      List.map_map, List.any_map]
    congr 1
    · exact List.map_congr_left fun node _ => TypeNode.mapRefs_stripOptional f node
    · congr 1
      funext node
      rw [Function.comp_apply, TypeNode.optional_mapRefs, TypeNode.name_mapRefs]
  | function params result =>
    simp only [meaning, TypeNode.mapRefs, TypeNode.mapRefsList, map_refs]

theorem mapRefs_meaningAll (f : ρ → σ) (mention : Text → ρ) (es : List TypeTree) :
    (meaningAll mention es).map (TypeNode.mapRefs f) = meaningAll (f ∘ mention) es := by
  match es with
  | [] => rfl
  | e :: es =>
    rw [meaningAll, meaningAll, List.map_cons, mapRefs_meaning f mention e,
      mapRefs_meaningAll f mention es]

theorem mapRefs_meaningAlternatives (f : ρ → σ) (mention : Text → ρ) (es : List TypeTree) :
    (meaningAlternatives mention es).map (TypeNode.mapRefs f) =
      meaningAlternatives (f ∘ mention) es := by
  match es with
  | [] => rfl
  | e :: es =>
    rw [meaningAlternatives, meaningAlternatives, List.map_cons, TypeNode.mapRefs_withRaw,
      mapRefs_meaning f mention e, mapRefs_meaningAlternatives f mention es]

end

end TypeTree

end LuaAtlas
