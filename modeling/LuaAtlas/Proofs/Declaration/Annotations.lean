import LuaAtlas.Proofs.Declaration.Saying
import Mathlib.Data.List.DropRight

/-!
# Annotations above a function

Four kinds of lines describe the function below them: parameter tags, return tags, doc comments and
modifiers.  They look alike, and the walk upwards tries them one after the other; but no line is of
two of the kinds that say something (`param?_eq_none_of_return?`, `eq_none_of_doc?`), so the order
does not matter.

The annotations of a line are the longest run of such lines right above it
(`suffix_annotations_iff`).  The notes of a function are what the lines of this run say, in the
order of the file (`notesAbove_eq`): the walk collects them from the bottom to the top and turns
them round.  From there on what is said of the function can be stated by its annotations alone:
its parameters (`params_notesOf`), its return values (`returnGroups_notesOf`) and its description
(`docs_notesOf`).
-/

namespace LuaAtlas

/-! ### Kinds of annotations -/

namespace Tag

variable {line : Text}

/-- **Whether a line is an annotation**: a parameter tag, a return tag, a doc comment or a
modifier. -/
def annotates (line : Text) : Bool :=
  (param? line).isSome || (return? line).isSome || (doc? line).isSome || (modifier? line).isSome

theorem starts_of_param? {r : Named × Text} (h : param? line = some r) :
    ∃ rest, Text.trimLeft line = "---@param".toList ++ rest := by
  unfold param? at h
  obtain ⟨rest, hrest, -⟩ := Option.bind_eq_some_iff.1 h
  exact ⟨rest, Text.after?_eq_some_iff.1 hrest⟩

theorem starts_of_return? {r : Text} (h : return? line = some r) :
    ∃ rest, Text.trimLeft line = "---@return".toList ++ rest := by
  unfold return? at h
  obtain ⟨rest, hrest, -⟩ := Option.bind_eq_some_iff.1 h
  exact ⟨rest, Text.after?_eq_some_iff.1 hrest⟩

theorem starts_of_doc? {r : Text × Text} (h : doc? line = some r) :
    ∃ rest, Text.trimLeft line = "---".toList ++ rest ∧ rest.head? ≠ some '@' := by
  unfold doc? at h
  obtain ⟨rest, hrest, h⟩ := Option.bind_eq_some_iff.1 h
  refine ⟨rest, Text.after?_eq_some_iff.1 hrest, ?_⟩
  intro hhead
  obtain ⟨cs, rfl⟩ := List.head?_eq_some_iff.1 hhead
  cases h

theorem starts_of_modifier? {r : Text} (h : modifier? line = some r) :
    ∃ rest, Text.trimLeft line = "---@".toList ++ rest := by
  unfold modifier? at h
  obtain ⟨rest, hrest, -⟩ := Option.bind_eq_some_iff.1 h
  exact ⟨rest, Text.after?_eq_some_iff.1 hrest⟩

/-- A return tag is no parameter tag. -/
theorem param?_eq_none_of_return? {r : Text} (h : return? line = some r) : param? line = none := by
  obtain ⟨rest, hreturn⟩ := starts_of_return? h
  rw [Option.eq_none_iff_forall_ne_some]
  intro r hr
  obtain ⟨rest', hparam⟩ := starts_of_param? hr
  rw [hreturn] at hparam
  simp at hparam

/-- A doc comment is no tag. -/
theorem eq_none_of_doc? {r : Text × Text} (h : doc? line = some r) :
    param? line = none ∧ return? line = none := by
  obtain ⟨rest, hdoc, hhead⟩ := starts_of_doc? h
  constructor
  · rw [Option.eq_none_iff_forall_ne_some]
    intro r hr
    obtain ⟨rest', hparam⟩ := starts_of_param? hr
    rw [hdoc] at hparam
    simp at hparam
    simp [hparam] at hhead
  · rw [Option.eq_none_iff_forall_ne_some]
    intro r hr
    obtain ⟨rest', hreturn⟩ := starts_of_return? hr
    rw [hdoc] at hreturn
    simp at hreturn
    simp [hreturn] at hhead

/-- Every annotation begins with three dashes. -/
theorem starts_of_annotates (h : annotates line = true) :
    ∃ rest, Text.trimLeft line = "---".toList ++ rest := by
  simp only [annotates, Bool.or_eq_true, Option.isSome_iff_exists] at h
  rcases h with ((⟨r, h⟩ | ⟨r, h⟩) | ⟨r, h⟩) | ⟨r, h⟩
  · obtain ⟨rest, hrest⟩ := starts_of_param? h
    exact ⟨_, hrest⟩
  · obtain ⟨rest, hrest⟩ := starts_of_return? h
    exact ⟨_, hrest⟩
  · obtain ⟨rest, hrest, -⟩ := starts_of_doc? h
    exact ⟨rest, hrest⟩
  · obtain ⟨rest, hrest⟩ := starts_of_modifier? h
    exact ⟨_, hrest⟩

/-! ### What an annotation says -/

/-- The parameter that a line with its number makes: a parameter tag with a type makes one, with the
name, the type and the question mark that stand in it. -/
def parameter? (v : Vocabulary) (file : Nat) (p : Text × Nat) : Option (MemberOutline Text) :=
  (param? p.1).bind fun r => (TypeExpr.cut? r.2).map fun type =>
    { kind := .parameter, name := r.1.name, rawType := type,
      type := TypeExpr.tagged v type r.1.optional, file, line := p.2 }

/-- The values of a return tag; other lines have none. -/
def returnValues (line : Text) : List Text := ((return? line).map TypeExpr.returnTypes).getD []

/-- The text of a doc comment, without blanks around it. -/
def docText? (line : Text) : Option Text := (doc? line).map fun r => Text.trim r.1

end Tag

namespace Declaration

open Tag

variable {lines : List Text} {i : Nat} {p : Text × Nat}

/-- The note that a line with its number is. -/
def note? (p : Text × Nat) : Option Note := (noteOf? p.2 p.1).join

theorem isSome_noteOf? (n : Nat) (text : Text) : (noteOf? n text).isSome = annotates text := by
  unfold noteOf? annotates
  cases param? text with
  | some r => rfl
  | none =>
    cases return? text with
    | some r => rfl
    | none =>
      cases doc? text with
      | some r => rfl
      | none => cases modifier? text <;> rfl

/-- **The kinds of lines**: a parameter tag, a return tag, a doc comment, or a line without a note.
Each line is of one of them only. -/
theorem note?_cases (p : Text × Nat) :
    (∃ r, param? p.1 = some r ∧ return? p.1 = none ∧ doc? p.1 = none ∧
      note? p = some (.param p.2 r.1.name r.1.optional (TypeExpr.cut? r.2))) ∨
    (∃ rest, param? p.1 = none ∧ return? p.1 = some rest ∧ doc? p.1 = none ∧
      note? p = some (.returns p.2 (TypeExpr.returnTypes rest))) ∨
    (∃ r, param? p.1 = none ∧ return? p.1 = none ∧ doc? p.1 = some r ∧
      note? p = some (.doc (Text.trim r.1))) ∨
    (param? p.1 = none ∧ return? p.1 = none ∧ doc? p.1 = none ∧ note? p = none) := by
  unfold note? noteOf?
  cases hdoc : doc? p.1 with
  | some r =>
    obtain ⟨hparam, hreturn⟩ := eq_none_of_doc? hdoc
    rw [hparam, hreturn]
    exact Or.inr (Or.inr (Or.inl ⟨r, rfl, rfl, rfl, rfl⟩))
  | none =>
    cases hreturn : return? p.1 with
    | some rest =>
      rw [param?_eq_none_of_return? hreturn]
      exact Or.inr (Or.inl ⟨rest, rfl, rfl, rfl, rfl⟩)
    | none =>
      cases hparam : param? p.1 with
      | some r => exact Or.inl ⟨r, rfl, rfl, rfl, rfl⟩
      | none =>
        refine Or.inr (Or.inr (Or.inr ⟨rfl, rfl, rfl, ?_⟩))
        cases modifier? p.1 <;> rfl

theorem any_isParam_note? (p : Text × Nat) :
    (note? p).any Note.isParam = (param? p.1).isSome := by
  rcases note?_cases p with ⟨r, hparam, -, -, hnote⟩ | ⟨r, hparam, -, -, hnote⟩ |
    ⟨r, hparam, -, -, hnote⟩ | ⟨hparam, -, -, hnote⟩
  all_goals
    rw [hparam, hnote]
    rfl

theorem params_note? (v : Vocabulary) (file : Nat) (p : Text × Nat) :
    (note? p).toList.flatMap (Note.params v file) = (parameter? v file p).toList := by
  unfold parameter?
  rcases note?_cases p with ⟨r, hparam, -, -, hnote⟩ | ⟨r, hparam, -, -, hnote⟩ |
    ⟨r, hparam, -, -, hnote⟩ | ⟨hparam, -, -, hnote⟩
  · rw [hparam, hnote, Option.bind_some]
    show Note.params v file (.param p.2 r.1.name r.1.optional (TypeExpr.cut? r.2)) ++ [] = _
    cases TypeExpr.cut? r.2 <;> rfl
  all_goals
    rw [hparam, hnote]
    rfl

theorem values?_note? (p : Text × Nat) :
    (note? p).bind Note.values? =
      if returnValues p.1 = [] then none else some ((returnValues p.1).map (p.2, ·)) := by
  unfold returnValues
  rcases note?_cases p with ⟨r, -, hreturn, -, hnote⟩ | ⟨rest, -, hreturn, -, hnote⟩ |
    ⟨r, -, hreturn, -, hnote⟩ | ⟨-, hreturn, -, hnote⟩
  · rw [hreturn, hnote]
    rfl
  · rw [hreturn, hnote]
    show Note.values? (.returns p.2 (TypeExpr.returnTypes rest)) = _
    simp only [Option.map_some, Option.getD_some]
    cases TypeExpr.returnTypes rest <;> rfl
  all_goals
    rw [hreturn, hnote]
    rfl

theorem doc?_note? (p : Text × Nat) : (note? p).bind Note.doc? = docText? p.1 := by
  unfold docText?
  rcases note?_cases p with ⟨r, -, -, hdoc, hnote⟩ | ⟨r, -, -, hdoc, hnote⟩ |
    ⟨r, -, -, hdoc, hnote⟩ | ⟨-, -, hdoc, hnote⟩
  all_goals
    rw [hdoc, hnote]
    rfl

/-! ### The run above a line -/

/-- **The annotations of a line**: the longest run of annotations right above the line with index
`i`, each with its number, in the order of the file. -/
def annotations (lines : List Text) (i : Nat) : List (Text × Nat) :=
  ((lines.take i).zipIdx 1).rtakeWhile fun p => annotates p.1

/-- **The run is the longest one.**  The lines right above a line, however many of them, belong to
the run exactly if they are all annotations. -/
theorem suffix_annotations_iff {above : List (Text × Nat)} :
    above <:+ annotations lines i ↔
      above <:+ (lines.take i).zipIdx 1 ∧ ∀ p ∈ above, annotates p.1 = true := by
  constructor
  · intro hsuffix
    refine ⟨hsuffix.trans (List.rtakeWhile_suffix _ _), ?_⟩
    intro p hp
    exact List.mem_rtakeWhile_imp (p := fun p : Text × Nat => annotates p.1) (hsuffix.subset hp)
  · rintro ⟨⟨front, hfront⟩, hall⟩
    refine ⟨front.rtakeWhile fun p => annotates p.1, ?_⟩
    unfold annotations List.rtakeWhile
    rw [← hfront, List.reverse_append, List.takeWhile_append_of_pos]
    · simp
    · intro p hp
      exact hall p (List.mem_reverse.1 hp)

theorem pairwise_zipIdx (lines : List Text) (first : Nat) :
    (lines.zipIdx first).Pairwise (·.2 < ·.2) := by
  have hnumbers : ((lines.zipIdx first).map Prod.snd).Pairwise (· < ·) := by
    rw [List.zipIdx_map_snd]
    exact List.pairwise_lt_range'
  exact List.pairwise_map.1 hnumbers

/-- The annotations of a line stand above it, under their own numbers. -/
theorem le_of_mem_annotations (hp : p ∈ annotations lines i) :
    0 < p.2 ∧ p.2 ≤ i ∧ lines[p.2 - 1]? = some p.1 := by
  obtain ⟨hsuffix, -⟩ := suffix_annotations_iff.1 List.suffix_rfl
  have hmem : p ∈ (lines.take i).zipIdx 1 := hsuffix.subset hp
  obtain ⟨hle, hget⟩ := List.mem_zipIdx_iff_le_and_getElem?_sub.1 hmem
  rw [List.getElem?_take] at hget
  split at hget
  · exact ⟨hle, by omega, hget⟩
  · cases hget

/-- **The annotations of a line stand below every line above it that is none.** -/
theorem lt_of_mem_annotations {j : Nat} {text : Text} (hj : j < i) (htext : lines[j]? = some text)
    (hnot : annotates text = false) (hp : p ∈ annotations lines i) : j + 1 < p.2 := by
  obtain ⟨⟨front, hfront⟩, hall⟩ := suffix_annotations_iff.1 List.suffix_rfl
  have hpairs := pairwise_zipIdx (lines.take i) 1
  have hmem : (text, j + 1) ∈ (lines.take i).zipIdx 1 := by
    rw [List.mem_zipIdx_iff_le_and_getElem?_sub]
    refine ⟨by simp, ?_⟩
    rw [Nat.add_sub_cancel, List.getElem?_take_of_lt hj]
    exact htext
  rw [← hfront] at hpairs hmem
  rcases List.mem_append.1 hmem with hmem | hmem
  · exact (List.pairwise_append.1 hpairs).2.2 _ hmem _ hp
  · have hyes : annotates text = true := hall _ hmem
    rw [hnot] at hyes
    cases hyes

/-- The notes in a run of lines. -/
def notesOf (run : List (Text × Nat)) : List Note := run.filterMap note?

/-- **The notes of a function are what its annotations say**, in the order of the file. -/
theorem notesAbove_eq (front : List Text) :
    notesAbove front.reverse front.length =
      notesOf ((front.zipIdx 1).rtakeWhile fun p => annotates p.1) := by
  unfold notesAbove
  -- from the bottom to the top, as the walk goes
  induction front using List.reverseRecOn with
  | nil => rfl
  | append_singleton front text ih =>
    have hsome := isSome_noteOf? (front.length + 1) text
    have hzip : (front ++ [text]).zipIdx 1 = front.zipIdx 1 ++ [(text, front.length + 1)] := by
      rw [List.zipIdx_append, Nat.add_comm]
      rfl
    rw [hzip, List.reverse_append, List.length_append]
    show (notesUp (front.length + 1) (text :: front.reverse)).reverse = _
    rw [notesUp]
    cases hnote : noteOf? (front.length + 1) text with
    | none =>
      rw [hnote] at hsome
      rw [List.rtakeWhile_concat_neg]
      · rfl
      · simp [← hsome]
    | some note =>
      rw [hnote] at hsome
      rw [List.rtakeWhile_concat_pos _ _ _ (by simpa using hsome.symm)]
      simp only [Nat.add_sub_cancel, List.reverse_append, ih, notesOf, List.filterMap_append]
      congr 1
      show note.toList.reverse = List.filterMap note? [(text, front.length + 1)]
      simp only [List.filterMap_cons, List.filterMap_nil, note?, hnote, Option.join_some]
      cases note <;> rfl

/-! ### What a run says -/

theorem any_isParam_notesOf (run : List (Text × Nat)) :
    (notesOf run).any Note.isParam = run.any fun p => (param? p.1).isSome := by
  unfold notesOf
  rw [List.any_filterMap]
  simp only [← any_isParam_note?]
  rfl

/-- The parameters of the notes are those of the tags with a type. -/
theorem params_notesOf (v : Vocabulary) (file : Nat) (run : List (Text × Nat)) :
    (notesOf run).flatMap (Note.params v file) = run.filterMap (parameter? v file) := by
  unfold notesOf
  rw [List.filterMap_eq_flatMap_toList, List.filterMap_eq_flatMap_toList, List.flatMap_assoc]
  simp only [params_note?]

/-- The return values are those of the tags, one list for each tag that has any. -/
theorem returnGroups_notesOf (run : List (Text × Nat)) :
    Note.returnGroups (notesOf run) = run.filterMap fun p =>
      if returnValues p.1 = [] then none else some ((returnValues p.1).map (p.2, ·)) := by
  unfold Note.returnGroups notesOf
  rw [List.filterMap_filterMap]
  simp only [values?_note?]

theorem docs_notesOf (run : List (Text × Nat)) :
    (notesOf run).filterMap Note.doc? = run.filterMap (docText? ·.1) := by
  unfold notesOf
  rw [List.filterMap_filterMap]
  simp only [doc?_note?]

end Declaration

end LuaAtlas
