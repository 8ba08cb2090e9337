import LuaAtlas.Catalog.Basic
import LuaAtlas.Failure

/-!
# Builders

A `Builder` makes one catalogue.  What it learnt about names and numbers belongs to that catalogue,
so a second use is refused.
-/

namespace LuaAtlas

/-- A maker of one catalogue. -/
structure Builder where
  vocabulary : Vocabulary := .standard
  used : Bool := false

/-- What a builder makes: the catalogue, and how many edges were recorded on the way. -/
structure Build where
  catalog : Catalog
  edgeCount : Nat

/-- **The catalogue of a list of texts**, unless the builder was used before. -/
def Builder.build (b : Builder) (texts : List Text) : Except Failure (Builder × Build) :=
  if b.used then .error .builtTwice
  else
    let files := texts.map Text.lines
    let draft := Catalog.draftOf b.vocabulary files
    .ok ({ b with used := true },
      { catalog := Catalog.ofDraft draft files, edgeCount := draft.edgeCount })

/-- A fresh builder makes the catalogue of the texts. -/
theorem Builder.build_fresh (v : Vocabulary) (texts : List Text) :
    ((Builder.mk v false).build texts).map (·.2.catalog) = .ok (Catalog.ofTexts v texts) := rfl

end LuaAtlas
