import LuaAtlas.Proofs.Text.Pairing
import LuaAtlas.Proofs.TypeExpr.Shape

/-!
# Brackets of generic types

A generic type is written `Name<...>`.  Its arguments are used if the bracket behind the name is
closed by the last character of the text and the arguments suit the name; otherwise the type is
reported and read as its name alone, without parts (`readType_generic`).

Which bracket closes the one behind the name is found by counting, and the four kinds of brackets
are counted together (`ClosesAtEnd`).  So a text whose brackets are not nested is always caught.
One whose brackets are nested but for their kinds is not: `TArray<Foo)` is read as `TArray<Foo>` is
(`closed_by_another_kind`).  As long as every closing bracket has the kind of the one that it
closes, counting and pairing come to the same (`wellBracketed_iff`).
-/

namespace LuaAtlas

namespace TypeExpr

open LuaAtlas.Bracket

variable {v : Vocabulary} {t name behind : Text}

/-- **A text that is read as a generic type**: a dotted name in front of `<`, with `behind` behind
it, and none of the forms that are tried before generic types. -/
structure IsGeneric (v : Vocabulary) (t name behind : Text) : Prop where
  head : genericHead? t = some (name, behind)
  form : form v t = genericForm v name behind

/-! ### The bracket at the end -/

/-- What stands behind `<` ends with the bracket that closes it, whatever the kinds of brackets. -/
def ClosesAtEnd (behind : Text) : Prop :=
  ∃ content c, behind = content ++ [c] ∧ isCloser c = true ∧ Nested (fun _ => True) content

/-- **What stands behind `<` is properly bracketed**: it ends with the `>` that closes it, and every
bracket between is closed by one of its own kind. -/
def WellBracketed (behind : Text) : Prop := ∃ content, behind = content ++ ['>'] ∧ Paired content

/-- The arguments between the brackets of a generic type. -/
def argumentsOf (content : Text) : List Text := (splitTop ',' (Text.trim content)).map Text.trim

theorem argumentsOf_ne_nil (content : Text) : argumentsOf content ≠ [] := by
  intro h
  exact splitAt_ne_nil ',' 0 (Text.trim content) (List.map_eq_nil_iff.1 h)

theorem genericArguments?_eq_some_iff {arguments : List Text} :
    genericArguments? behind = some arguments ↔
      ∃ content c, behind = content ++ [c] ∧ isCloser c = true ∧
        Nested (fun _ => True) content ∧ arguments = argumentsOf content := by
  constructor
  · intro h
    unfold genericArguments? at h
    split at h
    · rename_i content hclosing
      obtain ⟨c, hc, hbehind, hnested⟩ := splitClosing_eq_some_iff.1 hclosing
      exact ⟨content, c, hbehind, hc, hnested, (Option.some_inj.1 h).symm⟩
    · cases h
  · rintro ⟨content, c, hbehind, hc, hnested, rfl⟩
    have hclosing : splitClosing 1 behind = some (content, []) :=
      splitClosing_eq_some_iff.2 ⟨c, hc, hbehind, hnested⟩
    unfold genericArguments?
    rw [hclosing]
    rfl

theorem closesAtEnd_iff : ClosesAtEnd behind ↔ (genericArguments? behind).isSome = true := by
  rw [Option.isSome_iff_exists]
  constructor
  · rintro ⟨content, c, hbehind, hc, hnested⟩
    exact ⟨_, genericArguments?_eq_some_iff.2 ⟨content, c, hbehind, hc, hnested, rfl⟩⟩
  · rintro ⟨arguments, h⟩
    obtain ⟨content, c, hbehind, hc, hnested, -⟩ := genericArguments?_eq_some_iff.1 h
    exact ⟨content, c, hbehind, hc, hnested⟩

/-- **Pairing is counting with kinds that agree.** -/
theorem wellBracketed_iff :
    WellBracketed behind ↔ ClosesAtEnd behind ∧ kindsAgree ['<'] behind = true := by
  constructor
  · rintro ⟨content, rfl, hpaired⟩
    refine ⟨⟨content, '>', rfl, rfl, hpaired.nested⟩, ?_⟩
    rw [hpaired.kindsAgree_append]
    rfl
  · rintro ⟨⟨content, c, rfl, hc, hnested⟩, hkinds⟩
    obtain ⟨hpaired, hlast⟩ := paired_of_kindsAgree hnested hkinds
    rw [kindsAgree_cons_closer hc, Bool.and_eq_true, beq_iff_eq] at hlast
    obtain rfl : '>' = c := Option.some_inj.1 hlast.1
    exact ⟨content, rfl, hpaired⟩

instance (behind : Text) : Decidable (ClosesAtEnd behind) := decidable_of_iff _ closesAtEnd_iff.symm

instance (behind : Text) : Decidable (WellBracketed behind) :=
  decidable_of_iff _ wellBracketed_iff.symm

/-! ### Reading -/

/-- A generic type that cannot be used is read as its name alone. -/
theorem combine_malformed (v : Vocabulary) (t : Text) (head : Head) (name : Text) :
    (combine v t (.malformed head name)).issues = [.malformedGeneric t] ∧
      (combine v t (.malformed head name)).sketch =
        ⟨t, headKind v name head, name, [],
          if headKind v name head = .reference then [name] else [], false⟩ := by
  cases head with
  | array | map | set => exact ⟨rfl, rfl⟩
  | named =>
    refine ⟨rfl, ?_⟩
    show (readName v t name).sketch = _
    unfold headKind readName
    split <;> rfl

end TypeExpr

namespace Draft

open TypeExpr

variable {v : Vocabulary} {type name behind : Text}

/-- **A generic type that was not used**: it is reported at its place, and what was read is the name
with the kind of its container, or on its own, without parts. -/
structure Degraded (v : Vocabulary) (d : Draft) (t name : Text) (file line : Nat)
    (r : Draft × Signature) : Prop where
  diagnostics : r.1.diagnostics = d.diagnostics ++ [⟨.malformedGeneric t, file, line⟩]
  signature : r.2 = ⟨t, headKind v name (v.head name), name, [],
    if headKind v name (v.head name) = .reference then [⟨name, r.1.table.idOf name⟩] else [], false⟩

theorem degraded_of_malformed (d : Draft) (file line : Nat)
    (h : form v (Text.trim type) = .malformed (v.head name) name) :
    Degraded v d (Text.trim type) name file line (d.readType v type file line) := by
  obtain ⟨hissues, hsketch⟩ := combine_malformed v (Text.trim type) (v.head name) name
  have hread : TypeExpr.read v (Text.trim type) =
      combine v (Text.trim type) (.malformed (v.head name) name) := by
    rw [read_eq, h]
    rfl
  rw [← hread] at hissues hsketch
  rw [readType_eq_read]
  constructor
  · show d.diagnostics ++ _ = _
    rw [hissues]
    rfl
  · show (SymbolTable.sign _ _) = _
    rw [hsketch]
    unfold SymbolTable.sign TypeNode.mapRefs
    rw [apply_ite (List.map _)]
    rfl

/-- **How a generic type is read, by its brackets.**  If the text does not end with the bracket that
closes the one behind the name, it is reported and read without parts.  If it does, it has one part
for each argument, unless these do not suit the name.  The kinds of brackets do not count for this;
but if those of closing brackets agree with those that they close, then all that is not properly
bracketed is reported and read without parts. -/
theorem readType_generic (h : IsGeneric v (Text.trim type) name behind) (d : Draft)
    (file line : Nat) :
    let r := d.readType v type file line
    (¬ ClosesAtEnd behind → Degraded v d (Text.trim type) name file line r) ∧
      (∀ content c, behind = content ++ [c] → Bracket.isCloser c = true →
        Bracket.Nested (fun _ => True) content →
        (suits (v.head name) (argumentsOf content) = true →
          r.2.parts.length = (argumentsOf content).length ∧ r.2.parts ≠ []) ∧
        (suits (v.head name) (argumentsOf content) = false →
          Degraded v d (Text.trim type) name file line r)) ∧
      (Bracket.kindsAgree ['<'] behind = true → ¬ WellBracketed behind →
        Degraded v d (Text.trim type) name file line r) := by
  intro r
  have hform := h.form
  have hopen : ¬ ClosesAtEnd behind → Degraded v d (Text.trim type) name file line r := by
    intro hclose
    rw [closesAtEnd_iff, Option.not_isSome_iff_eq_none] at hclose
    apply degraded_of_malformed
    rw [hform, genericForm, hclose]
  refine ⟨hopen, ?_, ?_⟩
  · intro content c hbehind hc hnested
    have harguments : genericArguments? behind = some (argumentsOf content) :=
      genericArguments?_eq_some_iff.2 ⟨content, c, hbehind, hc, hnested, rfl⟩
    unfold genericForm at hform
    rw [harguments] at hform
    simp only at hform
    constructor
    · intro hsuits
      rw [hsuits] at hform
      have hparts : r.2.parts.length = (argumentsOf content).length := by
        show (d.readType v type file line).2.parts.length = _
        rw [readType_snd, SymbolTable.sign, TypeNode.parts_mapRefs, List.length_map, read_eq, hform]
        simp [Form.map, combine, genericReading]
      refine ⟨hparts, fun hnil => argumentsOf_ne_nil content ?_⟩
      rw [hnil] at hparts
      exact List.eq_nil_of_length_eq_zero hparts.symm
    · intro hsuits
      rw [hsuits] at hform
      exact degraded_of_malformed d file line hform
  · intro hkinds hbad
    apply hopen
    intro hclose
    exact hbad (wellBracketed_iff.2 ⟨hclose, hkinds⟩)

/-- A generic type with a bracket too many behind arguments that are properly bracketed. -/
theorem readType_generic_overclosed :
    let t := "Map<(A|B), C[]>>".toList
    let behind := "(A|B), C[]>>".toList
    IsGeneric .standard t "Map".toList behind ∧ Bracket.kindsAgree ['<'] behind = true ∧
      ¬ WellBracketed behind ∧
      Degraded .standard {} t "Map".toList 0 1 (Draft.readType .standard {} t 0 1) := by
  intro t behind
  have hgeneric : IsGeneric .standard (Text.trim t) "Map".toList behind := ⟨by decide, rfl⟩
  have hkinds : Bracket.kindsAgree ['<'] behind = true := by decide
  have hbad : ¬ WellBracketed behind := by decide
  exact ⟨hgeneric, hkinds, hbad, (readType_generic hgeneric {} 0 1).2.2 hkinds hbad⟩

/-- **A bracket of another kind closes a generic type.**  What stands behind the `<` is not properly
bracketed, yet nothing is reported and the argument is read. -/
theorem closed_by_another_kind :
    let t := "TArray<Foo)".toList
    let behind := "Foo)".toList
    let r := Draft.readType .standard {} t 0 1
    IsGeneric .standard t "TArray".toList behind ∧ ¬ WellBracketed behind ∧
      r.1.diagnostics = [] ∧ r.2.parts.map (·.raw) = ["Foo".toList] := by
  intro t behind r
  exact ⟨⟨by decide, rfl⟩, by decide, by decide +kernel, by decide +kernel⟩

end Draft

end LuaAtlas
