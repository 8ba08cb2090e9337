import LuaAtlas.Proofs.Declaration.Annotations
import LuaAtlas.Proofs.Declaration.Routines
import LuaAtlas.Proofs.Draft.Routine

/-!
# Which annotations belong to a function

What is read of a function comes from the longest run of annotations right above its line, and from
the whole of it (`Routine.DescribedBy`): its parameters from the parameter tags or, if there is
none, from its argument list; its return values from the return tags; its description from the doc
comments.

A line that declares a function is no annotation, so the run ends below the function before.  No
line is an annotation of two functions (`enterRoutine_describedBy`).
-/

namespace LuaAtlas

open Declaration Tag

variable {v : Vocabulary} {file owner : Nat} {d : Draft} {run : List (Text × Nat)}

/-- **A function is described by its annotations.**  The run holds these lines with their numbers;
`line` and `arguments` are the number and the argument list of the line below them.  The numbers of
the symbols that types mention are those in the table. -/
structure Routine.DescribedBy (v : Vocabulary) (file owner line : Nat) (arguments : Text)
    (run : List (Text × Nat)) (table : SymbolTable) (r : Routine) : Prop where
  /-- The parameters belong to the function. -/
  parent : ∀ p ∈ r.params, p.parent = owner
  /-- With parameter tags there is one parameter for each of them that has a type. -/
  tagged : (∃ p ∈ run, (param? p.1).isSome = true) →
    r.params.map (·.outline) = (run.filterMap (parameter? v file)).map (·.map table.refer id)
  /-- Without parameter tags there is one parameter for each name in the argument list. -/
  listed : (∀ p ∈ run, param? p.1 = none) →
    r.params.map (·.outline) = (Draft.argumentNames v arguments).map fun name =>
      { kind := .parameter, name, rawType := "any".toList, type := .primitive "any".toList, file,
        line }
  /-- Without return values nothing is returned. -/
  void : (∀ p ∈ run, returnValues p.1 = []) →
    r.returns = .primitive v.voidName ∧ r.extraReturns = []
  /-- The first value of the last tag with values is returned; all others follow in order. -/
  returned : ∀ above tag below main later, run = above ++ tag :: below →
    returnValues tag.1 = main :: later → (∀ p ∈ below, returnValues p.1 = []) →
    r.returns = table.sign (TypeExpr.read v (Text.trim main)).sketch ∧
      r.extraReturns = (above.flatMap (returnValues ·.1) ++ later).map fun type =>
        table.sign (TypeExpr.read v (Text.trim type)).sketch
  /-- The doc comments are put together line by line. -/
  description : r.description = Text.trim (Text.join ['\n'] (run.filterMap (docText? ·.1)))

/-! ### Return values -/

theorem mainReturn_append {ρ : Type} (v : Vocabulary) (front : List (TypeNode ρ))
    (main : TypeNode ρ) (later : List (TypeNode ρ)) :
    mainReturn v front.length (front ++ main :: later) = (main, front ++ later) := by
  simp [mainReturn]

/-- The return values of a run, one after the other. -/
theorem map_flatten_returnGroups (run : List (Text × Nat)) :
    (Note.returnGroups (notesOf run)).flatten.map Prod.snd = run.flatMap (returnValues ·.1) := by
  rw [returnGroups_notesOf]
  induction run with
  | nil => rfl
  | cons p run ih =>
    rw [List.filterMap_cons, List.flatMap_cons, ← ih]
    by_cases hp : returnValues p.1 = []
    · simp [hp]
    · simp [hp, Function.comp_def]

theorem returnGroups_eq_nil (h : ∀ p ∈ run, returnValues p.1 = []) :
    Note.returnGroups (notesOf run) = [] := by
  rw [returnGroups_notesOf, List.filterMap_eq_nil_iff]
  intro p hp
  rw [if_pos (h p hp)]

/-- The last list of return values is that of the last tag with values. -/
theorem returnGroups_append {above below : List (Text × Nat)} {tag : Text × Nat} {main : Text}
    {later : List Text} (htag : returnValues tag.1 = main :: later)
    (hbelow : ∀ p ∈ below, returnValues p.1 = []) :
    Note.returnGroups (notesOf (above ++ tag :: below)) =
      Note.returnGroups (notesOf above) ++ [(main :: later).map (tag.2, ·)] := by
  have hnil := returnGroups_eq_nil hbelow
  rw [returnGroups_notesOf] at hnil
  rw [returnGroups_notesOf, returnGroups_notesOf, List.filterMap_append,
    List.filterMap_cons_some (b := (main :: later).map (tag.2, ·)), hnil]
  rw [htag]
  rfl

namespace FunctionLine

variable {f : FunctionLine}

/-- With parameter tags the parameters are those of the tags with a type. -/
theorem params_of_tagged (v : Vocabulary) (file : Nat) (hnotes : f.notes = notesOf run)
    (h : ∃ p ∈ run, (param? p.1).isSome = true) :
    f.params v file = run.filterMap (parameter? v file) := by
  have htagged : f.notes.any Note.isParam = true := by
    rw [hnotes, any_isParam_notesOf, List.any_eq_true]
    exact h
  rw [FunctionLine.params, if_pos htagged, hnotes, params_notesOf]

theorem outline_void (v : Vocabulary) (file : Nat) (hnotes : f.notes = notesOf run)
    (h : ∀ p ∈ run, returnValues p.1 = []) :
    (f.outline v file).returns = .primitive v.voidName ∧ (f.outline v file).extraReturns = [] := by
  simp [FunctionLine.outline, FunctionLine.values, mainReturn, hnotes, returnGroups_eq_nil h]

theorem outline_returned (v : Vocabulary) (file : Nat) {above below : List (Text × Nat)}
    {tag : Text × Nat} {main : Text} {later : List Text}
    (hnotes : f.notes = notesOf (above ++ tag :: below))
    (htag : returnValues tag.1 = main :: later) (hbelow : ∀ p ∈ below, returnValues p.1 = []) :
    (f.outline v file).returns = (TypeExpr.read v (Text.trim main)).sketch ∧
      (f.outline v file).extraReturns = (above.flatMap (returnValues ·.1) ++ later).map fun type =>
        (TypeExpr.read v (Text.trim type)).sketch := by
  let sketch : Text → Sketch := fun type => (TypeExpr.read v (Text.trim type)).sketch
  let front : List Sketch := (above.flatMap (returnValues ·.1)).map sketch
  have hgroups : Note.returnGroups f.notes =
      Note.returnGroups (notesOf above) ++ [(main :: later).map (tag.2, ·)] := by
    rw [hnotes]
    exact returnGroups_append htag hbelow
  have hvalues : f.values v = front ++ sketch main :: later.map sketch := by
    simp only [FunctionLine.values, hgroups, front, ← map_flatten_returnGroups]
    simp [sketch, Function.comp_def]
  -- as many values stand in front of the last tag as in the lines above it
  have hearlier : (Note.returnGroups f.notes).dropLast.flatten.length = front.length := by
    rw [hgroups, List.dropLast_concat]
    simp only [front, ← map_flatten_returnGroups, List.length_map]
  have hmain := mainReturn_append v front (sketch main) (later.map sketch)
  simp only [FunctionLine.outline, hearlier, hvalues, hmain]
  refine ⟨rfl, ?_⟩
  rw [List.map_append]

end FunctionLine

/-! ### Functions -/

namespace Draft

/-- **A function is read from its notes alone.** -/
theorem describedBy_enterRoutine (v : Vocabulary) (file owner : Nat) (d : Draft) {f : FunctionLine}
    (hnotes : f.notes = notesOf run) :
    (d.enterRoutine v file owner f).2.DescribedBy v file owner f.line f.arguments run
      (d.enterRoutine v file owner f).1.table := by
  let r := d.enterRoutine v file owner f
  have hcollects : Collects file owner r.2.params d r.1 :=
    (collects_enterRoutine v file owner d f).1
  have houtline : r.2.outline = (f.outline v file).map r.1.table.refer id :=
    outline_enterRoutine (.refl _)
  have hparams : r.2.params.map (·.outline) =
      (f.params v file).map (·.map r.1.table.refer id) := congrArg RoutineOutline.params houtline
  have hreturns : r.2.returns = (f.outline v file).returns.mapRefs r.1.table.refer :=
    congrArg RoutineOutline.returns houtline
  have hextra : r.2.extraReturns = (f.outline v file).extraReturns.map
      (·.mapRefs r.1.table.refer) := congrArg RoutineOutline.extraReturns houtline
  constructor
  · intro p hp
    exact (hcollects.of_mem hp).1
  · intro htagged
    rw [hparams, f.params_of_tagged v file hnotes htagged]
  · intro hnone
    have huntagged : ¬ f.notes.any Note.isParam = true := by
      rw [hnotes, any_isParam_notesOf, List.any_eq_true]
      rintro ⟨p, hp, hparam⟩
      rw [hnone p hp] at hparam
      cases hparam
    rw [hparams, FunctionLine.params, if_neg huntagged, List.map_map]
    rfl
  · intro hnone
    obtain ⟨hvoid, hnil⟩ := f.outline_void v file hnotes hnone
    rw [hreturns, hextra, hvoid, hnil]
    exact ⟨rfl, rfl⟩
  · intro above tag below main later hrun htag hbelow
    rw [hrun] at hnotes
    obtain ⟨hmain, hlater⟩ := f.outline_returned v file hnotes htag hbelow
    rw [hreturns, hextra, hmain, hlater, List.map_map]
    exact ⟨rfl, rfl⟩
  · show Note.description f.notes = _
    rw [Note.description, hnotes, docs_notesOf]

/-- The run above a function and the run above another one share no line. -/
theorem disjoint_annotations {lines : List Text} {i j : Nat} {text arguments : Text} (hj : j < i)
    (htext : lines[j]? = some text) (hroutine : routineArguments? text = some arguments) :
    (∀ p ∈ annotations lines i, j + 1 < p.2) ∧
      ((annotations lines j).map Prod.snd).Disjoint ((annotations lines i).map Prod.snd) := by
  have hnot : annotates text = false := by
    obtain ⟨rest, hfunction⟩ := starts_of_routineArguments? hroutine
    rw [← Bool.not_eq_true]
    intro hyes
    obtain ⟨rest', hdashes⟩ := starts_of_annotates hyes
    rw [hfunction] at hdashes
    simp at hdashes
  have hbelow : ∀ p ∈ annotations lines i, j + 1 < p.2 :=
    fun p hp => lt_of_mem_annotations hj htext hnot hp
  refine ⟨hbelow, ?_⟩
  intro n hn hn'
  obtain ⟨p, hp, rfl⟩ := List.mem_map.1 hn
  obtain ⟨q, hq, heq⟩ := List.mem_map.1 hn'
  have habove := le_of_mem_annotations hp
  have hlt := hbelow q hq
  omega

/-- **What is said of a function comes from the run of annotations right above it.**  Exactly one
function is read from a line that declares one.  It is described by its annotations, whatever was
read before, and these are the longest run of annotations right above the line.  They stand below
every function above the line, and no line is an annotation of two functions. -/
theorem enterRoutine_describedBy {lines : List Text} {i : Nat} {text arguments : Text}
    (htext : lines[i]? = some text) (hroutine : routineArguments? text = some arguments) :
    ∃ f, ((ofLines lines).flatMap routines).filter (·.line == i + 1) = [f] ∧
      (∀ v file owner d,
        (enterRoutine v file owner d f).2.DescribedBy v file owner (i + 1) arguments
          (annotations lines i) (enterRoutine v file owner d f).1.table) ∧
      (∀ above, above <:+ annotations lines i ↔
        above <:+ (lines.take i).zipIdx 1 ∧ ∀ p ∈ above, annotates p.1 = true) ∧
      ∀ j text' arguments', lines[j]? = some text' → routineArguments? text' = some arguments' →
        (j < i → ∀ p ∈ annotations lines i, j + 1 < p.2) ∧
        (j ≠ i →
          ((annotations lines j).map Prod.snd).Disjoint ((annotations lines i).map Prod.snd)) := by
  obtain ⟨hi, -⟩ := List.getElem?_eq_some_iff.1 htext
  have hlength : (lines.take i).length = i := by
    rw [List.length_take]
    omega
  let f := functionLine (lines.take i).reverse i text arguments
  have hnotes : f.notes = notesOf (annotations lines i) := by
    have habove := notesAbove_eq (lines.take i)
    rw [hlength] at habove
    exact habove
  refine ⟨f, filter_routines_ofLines htext hroutine, ?_, fun _ => suffix_annotations_iff, ?_⟩
  · intro v file owner d
    exact describedBy_enterRoutine v file owner d hnotes
  · intro j text' arguments' htext' hroutine'
    refine ⟨fun hj => (disjoint_annotations hj htext' hroutine').1, fun hne => ?_⟩
    rcases Nat.lt_or_gt_of_ne hne with hj | hj
    · exact (disjoint_annotations hj htext' hroutine').2
    · exact List.disjoint_comm.1 (disjoint_annotations hj htext hroutine).2

/-- A method below another function, with annotations of all kinds. -/
theorem enterRoutine_describedBy_method :
    let lines := ["---@param a A", "function f(a)", "--- Finds it. ",
      "---@param x? B[] what to find", "---@param y", "---@nodiscard", "---@return C, D",
      "---@return", "---@return E?, F why", "function M:find(self, x)"].map String.toList
    let text := "function M:find(self, x)".toList
    lines[9]? = some text ∧ routineArguments? text = some "self, x".toList ∧
      ∃ f, ((ofLines lines).flatMap routines).filter (·.line == 10) = [f] ∧
        let r := enterRoutine .standard 0 1 {} f
        r.2.params.map (·.name) = ["x".toList] ∧ r.2.returns.raw = "E?".toList ∧
          r.2.extraReturns.map (·.raw) = ["C".toList, "D".toList, "F".toList] ∧
          r.2.description = "Finds it.".toList := by
  intro lines text
  have htext : lines[9]? = some text := rfl
  have hroutine : routineArguments? text = some "self, x".toList := by decide
  obtain ⟨f, hf, hdescribed, -⟩ := enterRoutine_describedBy htext hroutine
  have h := hdescribed .standard 0 1 {}
  obtain ⟨hmain, hextra⟩ := h.returned ((annotations lines 9).take 6) (lines[8], 9) []
    "E?".toList ["F".toList] (by decide) (by decide) nofun
  refine ⟨htext, hroutine, f, hf, ?_, ?_, ?_, ?_⟩
  · have hnames := congrArg (List.map (·.name)) (h.tagged ⟨(lines[3], 4), by decide, by decide⟩)
    rw [List.map_map, List.map_map] at hnames
    refine hnames.trans ?_
    show ((annotations lines 9).filterMap (parameter? .standard 0)).map (·.name) = _
    decide +kernel
  · rw [hmain, SymbolTable.sign, TypeNode.raw_mapRefs]
    decide +kernel
  · simp only [hextra, SymbolTable.sign, List.map_map, Function.comp_def, TypeNode.raw_mapRefs]
    decide +kernel
  · rw [h.description]
    decide

end Draft

end LuaAtlas
