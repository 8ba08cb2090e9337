import LuaAtlas.Proofs.Declaration.Dispatch

/-!
# Functions and methods of a file

Functions and methods are declared in different places: on their own, or in the block of a class.
Which lines belong to which block does not matter for them.  Every line that declares one is read
once, with the lines right above it in the file, whatever took those lines before
(`routines_ofLines`, `filter_routines_ofLines`).
-/

namespace LuaAtlas

/-- The argument list of a marker that declares a function or a method. -/
def Marker.arguments? : Marker → Option Text
  | method _ _ _ arguments => some arguments
  | function _ arguments => some arguments
  | _ => none

/-- The argument list of a line, if the line declares a function or a method. -/
def routineArguments? (text : Text) : Option Text := (marker? text).bind Marker.arguments?

namespace Marker

variable {line arguments : Text} {r : Marker × Text}

theorem arguments?_of_readClass? (h : readClass? line = some r) : r.1.arguments? = none := by
  unfold readClass? at h
  simp only [Option.bind_eq_bind, Option.bind_eq_some_iff] at h
  obtain ⟨-, -, -, -, ⟨name, rest⟩, -, h⟩ := h
  simp only at h
  split at h
  · cases h
    rfl
  · cases h
    rfl

theorem arguments?_of_readEnum? (h : readEnum? line = some r) : r.1.arguments? = none := by
  unfold readEnum? at h
  simp only [Option.bind_eq_bind, Option.bind_eq_some_iff] at h
  obtain ⟨-, -, -, -, ⟨name, rest⟩, -, h⟩ := h
  cases h
  rfl

theorem arguments?_of_readAlias? (h : readAlias? line = some r) : r.1.arguments? = none := by
  unfold readAlias? at h
  simp only [Option.bind_eq_bind, Option.bind_eq_some_iff] at h
  obtain ⟨-, -, -, -, ⟨name, rest⟩, -, h⟩ := h
  simp only at h
  split at h
  · cases h
    rfl
  · obtain ⟨target, -, h⟩ := Option.bind_eq_some_iff.1 h
    split at h
    · cases h
    · cases h
      rfl

theorem skipFunction?_of_readMethod? (h : readMethod? line = some r) :
    ∃ rest, skipFunction? line = some rest := by
  unfold readMethod? at h
  obtain ⟨rest, hrest, -⟩ := Option.bind_eq_some_iff.1 h
  exact ⟨rest, hrest⟩

theorem skipFunction?_of_readFunction? (h : readFunction? line = some r) :
    ∃ rest, skipFunction? line = some rest := by
  unfold readFunction? at h
  obtain ⟨rest, hrest, -⟩ := Option.bind_eq_some_iff.1 h
  exact ⟨rest, hrest⟩

end Marker

/-- A line that declares a function or a method begins with the word `function`. -/
theorem starts_of_routineArguments? {text arguments : Text}
    (h : routineArguments? text = some arguments) :
    ∃ rest, Text.trimLeft text = "function".toList ++ rest := by
  obtain ⟨marker, hmarker, harguments⟩ := Option.bind_eq_some_iff.1 h
  obtain ⟨r, hr, rfl⟩ := Option.map_eq_some_iff.1 hmarker
  obtain ⟨read, hread, hr⟩ := List.exists_of_findSome?_eq_some hr
  have hskip : ∃ rest, Marker.skipFunction? text = some rest := by
    simp only [Marker.readers, List.mem_cons, List.not_mem_nil, or_false] at hread
    rcases hread with rfl | rfl | rfl | rfl | rfl
    · rw [Marker.arguments?_of_readClass? hr] at harguments
      cases harguments
    · rw [Marker.arguments?_of_readEnum? hr] at harguments
      cases harguments
    · rw [Marker.arguments?_of_readAlias? hr] at harguments
      cases harguments
    · exact Marker.skipFunction?_of_readMethod? hr
    · exact Marker.skipFunction?_of_readFunction? hr
  obtain ⟨rest, hrest⟩ := hskip
  obtain ⟨behind, hbehind, -⟩ := Option.bind_eq_some_iff.1 hrest
  exact ⟨behind, Text.after?_eq_some_iff.1 hbehind⟩

/-- The function that something in the block of a class is: a field is none. -/
def ClassItem.routines : ClassItem → List FunctionLine
  | field _ => []
  | method m => [m.toFunctionLine]

namespace Declaration

/-- **The functions and methods in a declaration**, in the order of their lines. -/
def routines : Declaration → List FunctionLine
  | classDecl _ _ _ _ items => items.flatMap ClassItem.routines
  | enumDecl .. => []
  | aliasLine .. => []
  | aliasBlock .. => []
  | methodDecl m => [m.toFunctionLine]
  | functionDecl _ f => [f]

variable {above lines : List Text} {text arguments : Text} {count i : Nat}

/-- The functions and methods declared on the given lines, each with the notes in the lines above
it.  The first line stands below the `count` lines `above`, nearest first. -/
def routinesFrom (above : List Text) (count : Nat) : List Text → List FunctionLine
  | [] => []
  | text :: below =>
    ((routineArguments? text).map (functionLine above count text)).toList ++
      routinesFrom (text :: above) (count + 1) below

theorem routinesFrom_append (above : List Text) (count : Nat) (lines rest : List Text) :
    routinesFrom above count (lines ++ rest) =
      routinesFrom above count lines ++
        routinesFrom (lines.reverse ++ above) (count + lines.length) rest := by
  induction lines generalizing above count with
  | nil => rfl
  | cons text lines ih =>
    have hcount : count + 1 + lines.length = count + (lines.length + 1) := by omega
    simp only [List.cons_append, routinesFrom, ih, List.append_assoc, List.reverse_cons,
      List.nil_append, List.length_cons, hcount]

/-- The functions of a file are those on its first lines and those on the rest. -/
theorem routinesFrom_take_append_drop (above : List Text) (count taken : Nat) (lines : List Text) :
    routinesFrom above count (lines.take taken) ++
        routinesFrom ((lines.take taken).reverse ++ above) (count + taken) (lines.drop taken) =
      routinesFrom above count lines := by
  rcases Nat.le_total taken lines.length with hle | hle
  · have hlength : (lines.take taken).length = taken := by
      rw [List.length_take, Nat.min_eq_left hle]
    have happend := routinesFrom_append above count (lines.take taken) (lines.drop taken)
    rw [List.take_append_drop, hlength] at happend
    exact happend.symm
  · rw [List.take_of_length_le hle, List.drop_of_length_le hle, routinesFrom, List.append_nil]

theorem routinesFrom_eq_nil (h : ∀ text ∈ lines, marker? text = none) :
    routinesFrom above count lines = [] := by
  induction lines generalizing above count with
  | nil => rfl
  | cons text lines ih =>
    have htext : routineArguments? text = none := by
      rw [routineArguments?, h text (List.mem_cons_self ..)]
      rfl
    rw [routinesFrom, htext, ih fun u hu => h u (List.mem_cons_of_mem _ hu)]
    rfl

/-- Each function stands on one of the lines. -/
theorem line_of_mem_routinesFrom {f : FunctionLine} (h : f ∈ routinesFrom above count lines) :
    count < f.line ∧ f.line ≤ count + lines.length := by
  induction lines generalizing above count with
  | nil => cases h
  | cons text lines ih =>
    rw [routinesFrom, List.mem_append] at h
    rw [List.length_cons]
    rcases h with h | h
    · obtain ⟨arguments, -, rfl⟩ := Option.map_eq_some_iff.1 (Option.mem_toList.1 h)
      show count < count + 1 ∧ count + 1 ≤ _
      omega
    · have hline := ih h
      omega

/-! ### Blocks -/

/-- Lines that are listed as having no marker have none. -/
theorem marker?_eq_none_of_markersFrom {first : Nat} (h : markersFrom first lines = [])
    (ht : text ∈ lines) : marker? text = none := by
  rw [Option.eq_none_iff_forall_ne_some]
  intro marker hmarker
  obtain ⟨k, hk⟩ := List.mem_iff_getElem?.1 ht
  have hmem : (first + k, marker) ∈ markersFrom first lines :=
    mem_markersFrom.2 ⟨k, text, rfl, hk, hmarker⟩
  rw [h] at hmem
  cases hmem

/-- The methods in the block of a class are those on its lines. -/
theorem routines_classItems {block : List Text} (h : ∀ text ∈ block, endsClass text = false) :
    (classItems above count block).flatMap ClassItem.routines =
      routinesFrom above count block := by
  induction block generalizing above count with
  | nil => rfl
  | cons text below ih =>
    have hbelow : (classItems (text :: above) (count + 1) below).flatMap ClassItem.routines =
        routinesFrom (text :: above) (count + 1) below :=
      ih fun u hu => h u (List.mem_cons_of_mem _ hu)
    have hends := h text (List.mem_cons_self ..)
    rw [endsClass] at hends
    rw [classItems, routinesFrom, ← hbelow, routineArguments?]
    cases hm : marker? text with
    | none =>
      simp only
      split
      · rfl
      · rfl
    | some marker =>
      rw [hm] at hends
      cases marker with
      | method owner separator name arguments => rfl
      | classDef name parent => cases hends
      | enumDef name => cases hends
      | aliasDef name target => cases hends
      | function name arguments => cases hends

/-! ### The walk -/

/-- **A declaration holds the functions and methods on the lines that it takes.** -/
theorem routines_ofMarker (above : List Text) (count : Nat) (text : Text) (below : List Text)
    (marker : Marker) :
    (ofMarker above count text below marker).1.routines =
      (marker.arguments?.map (functionLine above count text)).toList ++
        routinesFrom (text :: above) (count + 1)
          (below.take (ofMarker above count text below marker).2) := by
  cases marker with
  | classDef name parent =>
    simp only [ofMarker, routines, take_length_takeWhile]
    rw [routines_classItems]
    · rfl
    · intro u hu
      simpa using List.mem_takeWhile_imp hu
  | enumDef name =>
    have hnone := markersFrom_enumBlock false (count + 1) 0 below
    simp only [ofMarker, routines]
    rw [routinesFrom_eq_nil fun u hu => marker?_eq_none_of_markersFrom hnone hu]
    rfl
  | aliasDef name target =>
    cases target with
    | some target => rfl
    | none =>
      have hnone := markersFrom_aliasBlock 0 below
      simp only [ofMarker, routines, take_length_takeWhile]
      rw [routinesFrom_eq_nil fun u hu => marker?_eq_none_of_markersFrom hnone hu]
      rfl
  | method owner separator name arguments => rfl
  | function name arguments => rfl

theorem routines_scan (above : List Text) (count : Nat) (lines : List Text) :
    (scan above count lines).flatMap routines = routinesFrom above count lines := by
  induction above, count, lines using scan.induct with
  | case1 above count =>
    rw [scan]
    rfl
  | case2 above count text below hm ih =>
    rw [scan, routinesFrom, routineArguments?, hm]
    simp only [ih]
    rfl
  | case3 above count text below marker hm r ih =>
    -- the lines below are those that the declaration takes and those that the walk goes on with
    rw [scan, routinesFrom, routineArguments?, hm, Option.bind_some,
      ← routinesFrom_take_append_drop _ _ r.2 below, ← List.append_assoc, ← ih]
    simp only [List.flatMap_cons, routines_ofMarker]
    rfl

/-- **Every line that declares a function or a method is read once**, with the lines above it. -/
theorem routines_ofLines (lines : List Text) :
    (ofLines lines).flatMap routines = routinesFrom [] 0 lines :=
  routines_scan [] 0 lines

/-- The function on a line is the only one there. -/
theorem filter_routines_ofLines (htext : lines[i]? = some text)
    (h : routineArguments? text = some arguments) :
    ((ofLines lines).flatMap routines).filter (·.line == i + 1) =
      [functionLine (lines.take i).reverse i text arguments] := by
  obtain ⟨hi, htext⟩ := List.getElem?_eq_some_iff.1 htext
  have hall : (ofLines lines).flatMap routines = routinesFrom [] 0 (lines.take i) ++
      (functionLine (lines.take i).reverse i text arguments ::
        routinesFrom (text :: (lines.take i).reverse) (i + 1) (lines.drop (i + 1))) := by
    rw [routines_ofLines, ← routinesFrom_take_append_drop [] 0 i lines, Nat.zero_add,
      List.append_nil, List.drop_eq_getElem_cons hi, htext]
    simp only [routinesFrom, h, Option.map_some, Option.toList_some, List.singleton_append]
  have hfront : (routinesFrom [] 0 (lines.take i)).filter (·.line == i + 1) = [] := by
    rw [List.filter_eq_nil_iff]
    intro f hf
    have hline := line_of_mem_routinesFrom hf
    rw [List.length_take] at hline
    simp only [beq_iff_eq]
    omega
  have hbehind : (routinesFrom (text :: (lines.take i).reverse) (i + 1)
      (lines.drop (i + 1))).filter (·.line == i + 1) = [] := by
    rw [List.filter_eq_nil_iff]
    intro f hf
    have hline := line_of_mem_routinesFrom hf
    simp only [beq_iff_eq]
    omega
  rw [hall, List.filter_append, hfront, List.filter_cons_of_pos (by simp [functionLine]), hbehind]
  rfl

end Declaration

end LuaAtlas
