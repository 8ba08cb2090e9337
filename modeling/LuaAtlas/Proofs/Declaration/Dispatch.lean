import LuaAtlas.Declaration.Scan
import Mathlib.Data.List.TakeWhile

/-!
# Every marker line counts once

The declarations of a file come from its marker lines: each declaration from the line that starts
it, each method in the block of a class from its own line (`Declaration.dispatched`).
`dispatched_ofLines` says that no marker line is lost in a block that runs over it and none is used
twice: the lines that declarations come from are all the marker lines, in order.

A block takes no marker line but those of methods, and only a class takes these
(`markersFrom_enumBlock`, `dispatched_classItems`), so a declaration accounts for exactly the lines
that it takes (`dispatched_ofMarker`).  The walk follows by induction (`dispatched_scan`).
-/

namespace LuaAtlas

/-- The marker lines among the given ones, with their numbers; the first line has the number
`first`. -/
def markersFrom (first : Nat) (lines : List Text) : List (Nat × Marker) :=
  (lines.zipIdx first).filterMap fun p => (marker? p.1).map (p.2, ·)

/-- The number and the marker of the line that declares a method. -/
def MethodLine.dispatched (m : MethodLine) : Nat × Marker :=
  (m.line, .method m.owner m.separator m.name m.arguments)

/-- The marker line that something in the block of a class comes from: a field comes from none. -/
def ClassItem.dispatched : ClassItem → List (Nat × Marker)
  | field _ => []
  | method m => [m.dispatched]

/-- **The marker lines that a declaration comes from**, with their numbers: its own line, and those
of the methods in the block of a class. -/
def Declaration.dispatched : Declaration → List (Nat × Marker)
  | classDecl line _ name parent items =>
    (line, .classDef name parent) :: items.flatMap ClassItem.dispatched
  | enumDecl line _ name _ _ => [(line, .enumDef name)]
  | aliasLine line name target => [(line, .aliasDef name (some target))]
  | aliasBlock line _ name _ => [(line, .aliasDef name none)]
  | methodDecl m => [m.dispatched]
  | functionDecl name f => [(f.line, .function name f.arguments)]

/-! ### Lists of marker lines -/

variable {first : Nat} {text : Text} {lines : List Text} {marker : Marker}

@[simp] theorem markersFrom_nil : markersFrom first [] = [] := rfl

theorem markersFrom_cons_of_none (h : marker? text = none) :
    markersFrom first (text :: lines) = markersFrom (first + 1) lines := by
  rw [markersFrom, List.zipIdx_cons, List.filterMap_cons_none (by rw [h]; rfl)]
  rfl

theorem markersFrom_cons_of_some (h : marker? text = some marker) :
    markersFrom first (text :: lines) = (first, marker) :: markersFrom (first + 1) lines := by
  rw [markersFrom, List.zipIdx_cons, List.filterMap_cons_some (by rw [h]; rfl)]
  rfl

theorem markersFrom_append (first : Nat) (lines rest : List Text) :
    markersFrom first (lines ++ rest) =
      markersFrom first lines ++ markersFrom (first + lines.length) rest := by
  rw [markersFrom, List.zipIdx_append, List.filterMap_append]
  rfl

/-- The marker lines of a file are those of its first lines and those of the rest. -/
theorem markersFrom_take_append_drop (first taken : Nat) (lines : List Text) :
    markersFrom first (lines.take taken) ++ markersFrom (first + taken) (lines.drop taken) =
      markersFrom first lines := by
  rcases Nat.le_total taken lines.length with hle | hle
  · have hlength : (lines.take taken).length = taken := by
      rw [List.length_take, Nat.min_eq_left hle]
    have happend := markersFrom_append first (lines.take taken) (lines.drop taken)
    rw [List.take_append_drop, hlength] at happend
    exact happend.symm
  · rw [List.take_of_length_le hle, List.drop_of_length_le hle, markersFrom_nil, List.append_nil]

theorem markersFrom_eq_nil (h : ∀ text ∈ lines, marker? text = none) :
    markersFrom first lines = [] := by
  induction lines generalizing first with
  | nil => rfl
  | cons text lines ih =>
    rw [markersFrom_cons_of_none (h text (List.mem_cons_self ..))]
    exact ih fun u hu => h u (List.mem_cons_of_mem _ hu)

/-- A line is listed under its number exactly when it is a marker line. -/
theorem mem_markersFrom {n : Nat} :
    (n, marker) ∈ markersFrom first lines ↔
      ∃ i text, n = first + i ∧ lines[i]? = some text ∧ marker? text = some marker := by
  rw [markersFrom, List.mem_filterMap]
  constructor
  · rintro ⟨⟨text, k⟩, hp, hm⟩
    obtain ⟨m, htext, he⟩ := Option.map_eq_some_iff.1 hm
    obtain ⟨rfl, rfl⟩ := Prod.mk.inj he
    obtain ⟨hle, hget⟩ := List.mk_mem_zipIdx_iff_le_and_getElem?_sub.1 hp
    exact ⟨k - first, text, (Nat.add_sub_cancel' hle).symm, hget, htext⟩
  · rintro ⟨i, text, rfl, hget, hm⟩
    refine ⟨(text, first + i), ?_, by rw [hm]; rfl⟩
    rw [List.mk_mem_zipIdx_iff_le_and_getElem?_sub, Nat.add_sub_cancel_left]
    exact ⟨Nat.le_add_right .., hget⟩

/-- The marker lines are listed by increasing number. -/
theorem pairwise_markersFrom (first : Nat) (lines : List Text) :
    (markersFrom first lines).Pairwise (·.1 < ·.1) := by
  induction lines generalizing first with
  | nil => exact .nil
  | cons text lines ih =>
    cases hm : marker? text with
    | none =>
      rw [markersFrom_cons_of_none hm]
      exact ih (first + 1)
    | some marker =>
      rw [markersFrom_cons_of_some hm]
      refine List.pairwise_cons.2 ⟨?_, ih (first + 1)⟩
      rintro ⟨n, m⟩ hp
      obtain ⟨i, -, rfl, -⟩ := mem_markersFrom.1 hp
      show first < first + 1 + i
      omega

/-! ### Blocks -/

theorem isMarkerLine_eq_isSome (text : Text) : isMarkerLine text = (marker? text).isSome :=
  Option.isSome_map.symm

theorem marker?_of_isMarkerLine_eq_false (h : isMarkerLine text = false) : marker? text = none := by
  rw [isMarkerLine_eq_isSome] at h
  exact Option.isSome_eq_false_iff.1 h |> Option.isNone_iff_eq_none.1

namespace Declaration

/-- The lines that `takeWhile` keeps are the first ones. -/
theorem take_length_takeWhile (p : Text → Bool) (lines : List Text) :
    lines.take (lines.takeWhile p).length = lines.takeWhile p :=
  List.prefix_iff_eq_take.1 (List.takeWhile_prefix p) |>.symm

/-- The block of an enumeration takes no marker line. -/
theorem markersFrom_enumBlock (isOpen : Bool) (count first : Nat) (lines : List Text) :
    markersFrom first (lines.take (enumBlock isOpen count lines).taken) = [] := by
  induction lines generalizing isOpen count first with
  | nil => rfl
  | cons text below ih =>
    rw [enumBlock]
    split
    · rfl
    · rename_i hmarker
      have hnone := marker?_of_isMarkerLine_eq_false (eq_false_of_ne_true hmarker)
      split
      · rw [EnumBlock.cons, List.take_succ_cons, markersFrom_cons_of_none hnone]
        exact ih false (count + 1) (first + 1)
      · simp only
        split
        · rw [List.take_succ_cons, markersFrom_cons_of_none hnone]
          rfl
        · rw [EnumBlock.cons, List.take_succ_cons, markersFrom_cons_of_none hnone]
          exact ih true (count + 1) (first + 1)

/-- The block of an alias takes no marker line. -/
theorem markersFrom_aliasBlock (first : Nat) (lines : List Text) :
    markersFrom first (lines.takeWhile (!isMarkerLine ·)) = [] := by
  refine markersFrom_eq_nil fun text ht => marker?_of_isMarkerLine_eq_false ?_
  simpa using List.mem_takeWhile_imp ht

/-- The block of a class takes the lines of methods only, and each of them is a method in it. -/
theorem dispatched_classItems {above : List Text} {count : Nat} {block : List Text}
    (h : ∀ text ∈ block, endsClass text = false) :
    (classItems above count block).flatMap ClassItem.dispatched =
      markersFrom (count + 1) block := by
  induction block generalizing above count with
  | nil => rfl
  | cons text below ih =>
    have hbelow : (classItems (text :: above) (count + 1) below).flatMap ClassItem.dispatched =
        markersFrom (count + 2) below := ih fun u hu => h u (List.mem_cons_of_mem _ hu)
    have hends := h text (List.mem_cons_self ..)
    rw [classItems, endsClass] at *
    cases hm : marker? text with
    | none =>
      rw [markersFrom_cons_of_none hm, ← hbelow]
      simp only
      split
      · rfl
      · rfl
    | some marker =>
      rw [hm] at hends
      rw [markersFrom_cons_of_some hm, ← hbelow]
      -- every marker but that of a method would have ended the block
      cases marker with
      | method owner separator name arguments => rfl
      | classDef name parent => cases hends
      | enumDef name => cases hends
      | aliasDef name target => cases hends
      | function name arguments => cases hends

/-! ### The walk -/

/-- **A declaration comes from the marker lines among those that it takes.** -/
theorem dispatched_ofMarker (above : List Text) (count : Nat) (text : Text) (below : List Text)
    (marker : Marker) :
    (ofMarker above count text below marker).1.dispatched =
      (count + 1, marker) ::
        markersFrom (count + 2) (below.take (ofMarker above count text below marker).2) := by
  cases marker with
  | classDef name parent =>
    simp only [ofMarker, Declaration.dispatched, take_length_takeWhile]
    rw [dispatched_classItems]
    intro u hu
    simpa using List.mem_takeWhile_imp hu
  | enumDef name =>
    simp only [ofMarker, Declaration.dispatched, markersFrom_enumBlock]
  | aliasDef name target =>
    cases target with
    | none =>
      simp only [ofMarker, Declaration.dispatched, take_length_takeWhile, markersFrom_aliasBlock]
    | some target => rfl
  | method owner separator name arguments => rfl
  | function name arguments => rfl

theorem dispatched_scan (above : List Text) (count : Nat) (lines : List Text) :
    (scan above count lines).flatMap dispatched = markersFrom (count + 1) lines := by
  induction above, count, lines using scan.induct with
  | case1 above count =>
    rw [scan]
    rfl
  | case2 above count text below hm ih =>
    rw [scan, markersFrom_cons_of_none hm, ← ih]
    simp only [hm]
  | case3 above count text below marker hm r ih =>
    -- the lines below are those that the declaration takes and those that the walk goes on with
    rw [Nat.add_right_comm (count + 1) r.2 1] at ih
    rw [scan, markersFrom_cons_of_some hm, ← markersFrom_take_append_drop _ r.2 below, ← ih]
    simp only [hm, List.flatMap_cons, dispatched_ofMarker]
    rfl

/-- **Every marker line is used once and in order.**  The lines that the declarations of a file come
from, methods in the blocks of classes included, are all its marker lines by increasing number, each
with its own marker. -/
theorem dispatched_ofLines (lines : List Text) :
    (ofLines lines).flatMap dispatched = markersFrom 1 lines ∧
      ((ofLines lines).flatMap dispatched).Pairwise (·.1 < ·.1) ∧
      ∀ n marker, (n, marker) ∈ (ofLines lines).flatMap dispatched ↔
        ∃ i text, n = i + 1 ∧ lines[i]? = some text ∧ marker? text = some marker := by
  have hall : (ofLines lines).flatMap dispatched = markersFrom 1 lines := dispatched_scan [] 0 lines
  refine ⟨hall, ?_, fun n marker => ?_⟩
  · rw [hall]
    exact pairwise_markersFrom 1 lines
  · rw [hall, mem_markersFrom]
    simp only [Nat.add_comm]

end Declaration

end LuaAtlas
