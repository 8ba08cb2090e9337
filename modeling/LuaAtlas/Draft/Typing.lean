import LuaAtlas.Draft.Basic
import LuaAtlas.TypeExpr.Reading

/-!
# Reading types into a draft

A type is read from the outside in, and the draft goes along.  A name is resolved where it is met
and gets the number that it has then; an issue is reported where it arises; and every piece is read
in the draft that the pieces before it left.  The arguments of a generic type are read before its
own name is resolved.
-/

namespace LuaAtlas

/-! ### Merged mentions -/

/-- A mention is merged into a list: it takes the place of one with the same name, or comes last. -/
def Reference.mergeInto (refs : List Reference) (r : Reference) : List Reference :=
  if refs.any (·.token == r.token) then refs.map fun q => if q.token == r.token then r else q
  else refs ++ [r]

/-- What types mention, each name once, in the order of first mention. -/
def Signature.mergedRefs (signatures : List Signature) : List Reference :=
  (signatures.flatMap (·.refs)).foldl Reference.mergeInto []

namespace Draft

/-- What is read in a draft: the draft after it, and the result. -/
abbrev Reader := Draft → Draft × Signature

/-- Several types are read, each in the draft that the ones before it left. -/
def readInOrder (d : Draft) : List Reader → Draft × List Signature
  | [] => (d, [])
  | reader :: readers =>
    let r := reader d
    let rest := readInOrder r.1 readers
    (rest.1, r.2 :: rest.2)

/-- A name on its own, under the text `raw`: unless it is primitive, it is resolved. -/
def readName (v : Vocabulary) (d : Draft) (raw name : Text) (file line : Nat) :
    Draft × Signature :=
  if v.isPrimitive name then (d, .leaf raw .primitive name)
  else
    let r := d.resolve name file line
    (r.1, ⟨raw, .reference, name, [], [⟨name, r.2⟩], false⟩)

/-- A union: an optional alternative, or one that is the nil type, makes it optional, and gives up
its own wrapper. -/
def unionOf (v : Vocabulary) (raw : Text) (alternatives : List Signature) : Signature :=
  let stripped := alternatives.map (·.stripOptional)
  { raw, kind := .union, name := "union".toList, parts := stripped,
    refs := Signature.mergedRefs stripped,
    optional := alternatives.any fun a => a.optional || a.name == v.nilName }

/-- A generic type with the given arguments; its name is resolved last if it is a symbol. -/
def readGeneric (v : Vocabulary) (d : Draft) (raw name : Text) (parts : List Signature)
    (file line : Nat) : Head → Draft × Signature
  | .named =>
    let base := d.readName v name name file line
    (base.1,
      ⟨raw, base.2.kind, name, parts, Signature.mergedRefs (base.2 :: parts), false⟩)
  | head =>
    (d, ⟨raw, TypeExpr.headKind v name head, name, parts, Signature.mergedRefs parts, false⟩)

/-- **A form is read**, piece by piece. -/
def readForm (v : Vocabulary) (d : Draft) (t : Text) (file line : Nat) :
    TypeExpr.Form Reader → Draft × Signature
  | .empty => (d.report .emptyType file line, .primitive "any".toList)
  | .enclosed inner =>
    let r := inner d
    (r.1, r.2.withRaw t)
  | .function mentioned =>
    let r := d.readInOrder mentioned
    (r.1, ⟨t, .function, "function".toList, [], Signature.mergedRefs r.2, false⟩)
  | .unclosed => (d.report (.unclosedFunction t) file line, .leaf t .function "function".toList)
  | .union alternatives =>
    let r := d.readInOrder alternatives
    (r.1, unionOf v t r.2)
  | .optional inner =>
    let r := inner d
    (r.1, r.2.optionalOf.withRaw t)
  | .array inner =>
    let r := inner d
    (r.1, ⟨t, .array, "array".toList, [r.2], r.2.refs, false⟩)
  | .generic head name arguments =>
    let r := d.readInOrder arguments
    r.1.readGeneric v t name r.2 file line head
  | .malformed .named name =>
    (d.report (.malformedGeneric t) file line).readName v t name file line
  | .malformed head name =>
    (d.report (.malformedGeneric t) file line, .leaf t (TypeExpr.headKind v name head) name)
  | .literal => (d, .primitive t)
  | .dotted => d.readName v t t file line
  | .unrecognized => (d.report (.unrecognizedType t) file line, .primitive t)

/-- **A trimmed text is read as a type.** -/
def readTrimmed (v : Vocabulary) (d : Draft) (t : Text) (file line : Nat) : Draft × Signature :=
  d.readForm v t file line
    ((TypeExpr.form v t).mapPieces fun piece _ d => d.readTrimmed v piece file line)
termination_by t.length
decreasing_by rename_i h; exact TypeExpr.length_lt_of_mem_pieces h

/-- **A type is read**, without the blanks around it. -/
def readType (v : Vocabulary) (d : Draft) (type : Text) (file line : Nat) : Draft × Signature :=
  d.readTrimmed v (Text.trim type) file line

end Draft

end LuaAtlas
