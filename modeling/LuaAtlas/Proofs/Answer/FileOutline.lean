import LuaAtlas.Proofs.Catalog.Ranges
import LuaAtlas.Proofs.Text.Numerals

/-!
# The outline of a file

A file is asked for by its index or its path.  A text of digits is an index, whatever paths there
are; so a path that is made of digits does not lead to its file (`outline_path_of_digits`).  Any
other text is looked up among the paths, and the first path that it equals goes before all those
that end in it.  `outline_text` says which outline the answer is.

Some texts of digits are not read as an integer, and only for them there is no answer at all
(`outline_text_eq_error_iff`).
-/

namespace LuaAtlas.Answer

variable {v : Volume} {sources : List Text} {selector : Selector} {t : Text} {file : Nat}
  {digits : List Nat}

/-! ### Outlines -/

/-- **The outline of a file**: its path and index, and an entry for each symbol that it declares, in
the order of lines. -/
structure IsOutline (v : Volume) (file : Nat) (answer : Json) : Prop where
  database : answer.field? "database" = some (.text v.name)
  path : ∀ source, v.sources[file]? = some source → answer.field? "file" = some (.text source)
  index : answer.field? "file_index" = some (.nat file)
  entries : ∃ symbols : List Symbol,
    answer.field? "symbols" = some (.arr (symbols.map outlineSymbol)) ∧
      symbols.Perm (v.catalog.declared.filter (·.file == file)) ∧
      symbols.Pairwise fun a b =>
        a.firstLine < b.firstLine ∨ a.firstLine = b.firstLine ∧ a.id ≤ b.id

/-- The answer for a file that is found. -/
theorem outline_of_some (h : file? v.sources selector = .ok (some file)) :
    ∃ fields, outline v selector = .ok (.obj fields) ∧ IsOutline v file (.obj fields) := by
  unfold outline
  rw [h]
  refine ⟨_, rfl, rfl, fun source hsource => ?_, rfl, symbolsIn v.catalog file, rfl,
    List.mergeSort_perm _ _, sorted_symbolsIn v.catalog file⟩
  have hname : v.sourceName file = source := by
    show (v.sources[file]?).getD _ = source
    rw [hsource]
    rfl
  rw [← hname]
  rfl

/-- The answer for a file that is not found. -/
theorem outline_of_none (h : file? v.sources selector = .ok none) :
    outline v selector = .ok (error "File not in database: " selector.display) := by
  unfold outline
  rw [h]
  rfl

/-- There is an answer if there is one to the question which file is meant. -/
theorem exists_outline {found : Option Nat} (h : file? v.sources selector = .ok found) :
    ∃ fields, outline v selector = .ok (.obj fields) := by
  cases found with
  | none => exact ⟨_, outline_of_none h⟩
  | some file =>
    obtain ⟨fields, hanswer, -⟩ := outline_of_some h
    exact ⟨fields, hanswer⟩

/-! ### Texts that select a file -/

theorem isNumber_iff : isNumber t = true ↔ t ≠ [] ∧ ∀ c ∈ t, Text.isDigit c = true := by
  rw [isNumber, Bool.and_eq_true, Bool.not_eq_true', List.isEmpty_eq_false_iff, List.all_eq_true]

theorem file?_of_isNumber_eq_false (sources : List Text) (h : isNumber t = false) :
    file? sources (.text t) = .ok (fileWithPath? sources t) := by
  rw [file?, h]
  rfl

/-- The first path that is the text goes before all that end in it. -/
theorem fileWithPath?_of_mem (h : t ∈ sources) :
    fileWithPath? sources t = some (sources.idxOf t) := by
  have hfind : sources.findIdx? (· == t) = some (sources.idxOf t) :=
    List.findIdx?_eq_some_of_exists ⟨t, h, beq_self_eq_true t⟩
  rw [fileWithPath?, hfind, Option.some_or]

theorem fileAt?_natCast (sources : List Text) (n : Nat) :
    fileAt? sources n = if n < sources.length then some n else none := by
  show (some n).filter (· < sources.length) = _
  rw [Option.filter_some]
  simp only [decide_eq_true_eq]

/-- **Decimal digits are an index.** -/
theorem file?_of_digits (sources : List Text) (h : t.map Text.decimalValue? = digits.map some)
    (hne : t ≠ []) (hlimit : t.length ≤ Text.digitLimit) :
    file? sources (.text t) = .ok (if Text.numberOf digits < sources.length then
      some (Text.numberOf digits) else none) := by
  have hnumber : isNumber t = true := isNumber_iff.2 ⟨hne, fun c hc =>
    Text.isDigit_of_isDecimal (Text.isDecimal_of_digits h hc)⟩
  have hvalue : Text.toInt? t = some (Text.numberOf digits : Int) := by
    rw [Text.toInt?_of_digits h hne, ite_cond_eq_false _ _ (eq_false (Nat.not_lt.2 hlimit))]
  rw [file?, hnumber, hvalue, ← fileAt?_natCast]
  rfl

/-- **Texts without an answer** are those of digits that are not read as an integer. -/
theorem outline_text_eq_error_iff {failure : Failure} :
    outline v (.text t) = .error failure ↔ failure = .invalidInteger t ∧ t ≠ [] ∧
      (∀ c ∈ t, Text.isDigit c = true) ∧
      ((∃ c ∈ t, Text.isDecimal c = false) ∨ Text.digitLimit < t.length) := by
  by_cases hnumber : isNumber t = true
  · obtain ⟨hne, hdigits⟩ := isNumber_iff.1 hnumber
    rw [← Text.toInt?_eq_none_iff hne hdigits, and_iff_right hne, and_iff_right hdigits]
    cases hvalue : Text.toInt? t with
    | none =>
      have hfile : file? v.sources (.text t) = .error (.invalidInteger t) := by
        rw [file?, hnumber, hvalue]
        rfl
      rw [outline, hfile, and_iff_left rfl]
      constructor
      · intro h
        exact (Except.error.inj h).symm
      · rintro rfl
        rfl
    | some n =>
      have hfile : file? v.sources (.text t) = .ok (fileAt? v.sources n) := by
        rw [file?, hnumber, hvalue]
        rfl
      obtain ⟨fields, hanswer⟩ := exists_outline hfile
      rw [hanswer]
      simp
  · have hpath : isNumber t = false := Bool.not_eq_true _ ▸ hnumber
    obtain ⟨fields, hanswer⟩ := exists_outline (file?_of_isNumber_eq_false v.sources hpath)
    rw [hanswer]
    refine iff_of_false (by simp) ?_
    rintro ⟨-, hne, hdigits, -⟩
    exact hnumber (isNumber_iff.2 ⟨hne, hdigits⟩)

/-- **The outline that a text asks for.**  A text that is not made of digits has an answer in every
catalogue, and if it is the path of a file, that is the outline of the first file with this path,
whatever characters stand in it.  A text of decimal digits has an answer too: it is the index of a
file, and if there is no such file, the answer says so. -/
theorem outline_text (v : Volume) (t : Text) :
    (t = [] ∨ (∃ c ∈ t, Text.isDigit c = false) →
      ∃ fields, outline v (.text t) = .ok (.obj fields) ∧
        (t ∈ v.sources → IsOutline v (v.sources.idxOf t) (.obj fields))) ∧
    ∀ digits, t.map Text.decimalValue? = digits.map some → t ≠ [] →
      t.length ≤ Text.digitLimit →
      ∃ fields, outline v (.text t) = .ok (.obj fields) ∧
        (Text.numberOf digits < v.sources.length →
          IsOutline v (Text.numberOf digits) (.obj fields)) ∧
        (v.sources.length ≤ Text.numberOf digits → (Json.obj fields).field? "error" =
          some (.text ("File not in database: ".toList ++ t))) := by
  constructor
  · intro h
    have hpath : isNumber t = false := by
      rw [← Bool.not_eq_true, isNumber_iff]
      rintro ⟨hne, hdigits⟩
      obtain ⟨c, hc, hnone⟩ := h.resolve_left hne
      rw [hdigits c hc] at hnone
      cases hnone
    have hfile := file?_of_isNumber_eq_false v.sources hpath
    by_cases hmem : t ∈ v.sources
    · rw [fileWithPath?_of_mem hmem] at hfile
      obtain ⟨fields, hanswer, houtline⟩ := outline_of_some hfile
      exact ⟨fields, hanswer, fun _ => houtline⟩
    · obtain ⟨fields, hanswer⟩ := exists_outline hfile
      exact ⟨fields, hanswer, fun h => absurd h hmem⟩
  · intro digits hdigits hne hlimit
    have hfile := file?_of_digits v.sources hdigits hne hlimit
    by_cases hindex : Text.numberOf digits < v.sources.length
    · rw [ite_cond_eq_true _ _ (eq_true hindex)] at hfile
      obtain ⟨fields, hanswer, houtline⟩ := outline_of_some hfile
      exact ⟨fields, hanswer, fun _ => houtline, fun h => absurd hindex (Nat.not_lt.2 h)⟩
    · rw [ite_cond_eq_false _ _ (eq_false hindex)] at hfile
      exact ⟨_, outline_of_none hfile, fun h => absurd h hindex, fun _ => rfl⟩

/-- A path that stands twice among the sources, behind one that ends in it, and an index with a digit
of another script. -/
theorem outline_text_of_repeated_path :
    let texts := ["---@class A", "---@class B", "---@class C"].map String.toList
    let v : Volume := ⟨"default".toList, [], ["x/a²".toList, "a²".toList, "a²".toList],
      Catalog.ofTexts .standard texts⟩
    ((∃ c ∈ "a²".toList, Text.isDigit c = false) ∧ "a²".toList ∈ v.sources ∧
      ∃ fields, outline v (.text "a²".toList) = .ok (.obj fields) ∧
        IsOutline v 1 (.obj fields)) ∧
    "\u0661".toList.map Text.decimalValue? = [1].map some ∧
      ∃ fields, outline v (.text "\u0661".toList) = .ok (.obj fields) ∧
        IsOutline v 1 (.obj fields) := by
  intro texts v
  have hletter : ∃ c ∈ "a²".toList, Text.isDigit c = false := ⟨'a', by decide, by decide⟩
  have hmem : "a²".toList ∈ v.sources := by decide
  have hdigits : "\u0661".toList.map Text.decimalValue? = [1].map some := by decide
  obtain ⟨fields, hanswer, houtline⟩ := (outline_text v "a²".toList).1 (Or.inr hletter)
  obtain ⟨fields', hanswer', hindex, -⟩ :=
    (outline_text v "\u0661".toList).2 [1] hdigits (by decide) (by decide)
  exact ⟨⟨hletter, hmem, fields, hanswer, houtline hmem⟩, hdigits, fields', hanswer',
    hindex (by decide)⟩

/-- **A path that is made of digits is taken for an index**, and the answer is the outline of
another file. -/
theorem outline_path_of_digits :
    let texts := ["---@class A", "---@class B"].map String.toList
    let v : Volume := ⟨"default".toList, [], ["a.lua".toList, "0".toList],
      Catalog.ofTexts .standard texts⟩
    "0".toList ∈ v.sources ∧ v.sources.idxOf "0".toList = 1 ∧
      ∃ answer, outline v (.text "0".toList) = .ok answer ∧
        answer.field? "file" = some (.text "a.lua".toList) ∧ ¬IsOutline v 1 answer := by
  intro texts v
  have hdigits : "0".toList.map Text.decimalValue? = [0].map some := by decide
  have hfile : file? v.sources (.text "0".toList) = .ok (some 0) :=
    file?_of_digits v.sources hdigits (by decide) (by decide)
  obtain ⟨fields, hanswer, houtline⟩ := outline_of_some hfile
  refine ⟨by decide, by decide, _, hanswer, houtline.path _ rfl, fun hother => ?_⟩
  have hindex := houtline.index.symm.trans hother.index
  simp [Json.nat] at hindex

end LuaAtlas.Answer
