import LuaAtlas.Proofs.Catalog.Declared

/-!
# The lines that a declaration covers

A declaration that makes a symbol reaches from its marker line to the last line of its block
(`Declaration.span?`).  `Span.Covers` says what such a span looks like in the lines of its file: it
lies inside the file, no line behind its first one declares a symbol, and the span of a class goes
on as long as that is so.

`covers_of_mem_ofLines` finds this for every declaration of a file.  What a block takes is known
already (`dispatched_ofMarker`): the marker lines in it are methods of a class.  The walk keeps the
lines that it has passed, so the whole file is in view at every declaration (`covers_of_mem_scan`).
In turn every line that declares a symbol starts a declaration (`ofMarker_mem_ofLines`).
-/

namespace LuaAtlas

/-- What a declaration declares as a symbol, and the lines that it covers. -/
structure Span where
  kind : SymbolKind
  name : Text
  file : Nat
  firstLine : Nat
  lastLine : Nat

/-- The span of a declaration in the file with an index.  A method declares no symbol. -/
def Declaration.span? (file : Nat) : Declaration → Option Span
  | classDecl line lastLine name _ _ => some ⟨.classKind, name, file, line, lastLine⟩
  | enumDecl line lastLine name _ _ => some ⟨.enumKind, name, file, line, lastLine⟩
  | aliasLine line name _ => some ⟨.aliasKind, name, file, line, line⟩
  | aliasBlock line lastLine name _ => some ⟨.aliasKind, name, file, line, lastLine⟩
  | methodDecl _ => none
  | functionDecl name f => some ⟨.functionKind, name, file, f.line, f.line⟩

/-- **A span in the lines of its file.** -/
structure Span.Covers (lines : List Text) (x : Span) : Prop where
  pos : 1 ≤ x.firstLine
  le : x.firstLine ≤ x.lastLine
  le_length : x.lastLine ≤ lines.length
  /-- Behind its first line it holds no line that declares a symbol. -/
  quiet : ∀ line marker, x.firstLine < line → line ≤ x.lastLine →
    (line, marker) ∈ markersFrom 1 lines → marker.declared? = none
  /-- A class ends only where the file ends or the next line declares a symbol. -/
  maximal : x.kind = .classKind → x.lastLine < lines.length →
    ∃ marker key, (x.lastLine + 1, marker) ∈ markersFrom 1 lines ∧ marker.declared? = some key

namespace Declaration

variable {x : Declaration} {above below : List Text} {count : Nat} {text : Text} {marker : Marker}

/-! ### Blocks -/

/-- A line ends the block of a class exactly when it declares a symbol. -/
theorem endsClass_eq_true_iff :
    endsClass text = true ↔ ∃ marker key, marker? text = some marker ∧
      marker.declared? = some key := by
  unfold endsClass
  cases marker? text with
  | none => simp
  | some marker => cases marker <;> simp [Marker.declared?]

/-- The marker lines of a declaration, its own apart, declare no symbol. -/
theorem declared?_of_mem_tail_dispatched {p : Nat × Marker} (h : p ∈ x.dispatched.tail) :
    p.2.declared? = none := by
  cases x with
  | classDecl line lastLine name parent items =>
    obtain ⟨item, -, hp⟩ := List.mem_flatMap.1 h
    cases item with
    | field f => cases hp
    | method m =>
      rw [ClassItem.dispatched, List.mem_singleton] at hp
      rw [hp]
      rfl
  | _ => cases h

theorem taken_enumBlock_le (isOpen : Bool) (count : Nat) (lines : List Text) :
    (enumBlock isOpen count lines).taken ≤ lines.length := by
  induction lines generalizing isOpen count with
  | nil => exact Nat.le_refl 0
  | cons text below ih =>
    have hrest (isOpen : Bool) (values : List EnumValue) :
        ((enumBlock isOpen (count + 1) below).cons values).taken ≤ (text :: below).length :=
      Nat.succ_le_succ (ih isOpen (count + 1))
    unfold enumBlock
    split
    · exact Nat.zero_le _
    · split
      · exact hrest false []
      · simp only
        split
        · exact Nat.succ_le_succ (Nat.zero_le _)
        · exact hrest true _

theorem taken_ofMarker_le (above : List Text) (count : Nat) (text : Text) (below : List Text)
    (marker : Marker) : (ofMarker above count text below marker).2 ≤ below.length := by
  cases marker with
  | classDef name parent => exact (List.takeWhile_prefix _).length_le
  | enumDef name => exact taken_enumBlock_le false (count + 1) below
  | aliasDef name target =>
    cases target with
    | none => exact (List.takeWhile_prefix _).length_le
    | some target => exact Nat.zero_le _
  | method owner separator name arguments => exact Nat.zero_le _
  | function name arguments => exact Nat.zero_le _

/-- The span of a declaration is its marker line and the lines that it takes. -/
theorem span?_ofMarker {file : Nat} {e : Span}
    (h : (ofMarker above count text below marker).1.span? file = some e) :
    e.file = file ∧ e.firstLine = count + 1 ∧
      e.lastLine = count + 1 + (ofMarker above count text below marker).2 := by
  cases marker with
  | aliasDef name target =>
    cases target with
    | none => cases h; exact ⟨rfl, rfl, rfl⟩
    | some target => cases h; exact ⟨rfl, rfl, rfl⟩
  | method owner separator name arguments => cases h
  | _ => cases h; exact ⟨rfl, rfl, rfl⟩

/-- The line behind the block of a class declares a symbol. -/
theorem endsClass_behind_block {file : Nat} {e : Span}
    (h : (ofMarker above count text below marker).1.span? file = some e)
    (hk : e.kind = .classKind) {next : Text}
    (hnext : below[(ofMarker above count text below marker).2]? = some next) :
    endsClass next = true := by
  cases marker with
  | classDef name parent =>
    -- the block is what `takeWhile` keeps, so the line behind it is the first that it drops
    have hhead : (below.dropWhile (!endsClass ·)).head? = some next := by
      let block := below.takeWhile (!endsClass ·)
      have hsplit : below[block.length]? = (below.dropWhile (!endsClass ·)).head? := by
        rw [List.head?_eq_getElem?, ← Nat.sub_self block.length,
          ← List.getElem?_append_right (Nat.le_refl _), List.takeWhile_append_dropWhile]
      exact hsplit.symm.trans hnext
    have hstop := List.head?_dropWhile_not (!endsClass ·) below
    rw [hhead] at hstop
    simpa using hstop
  | enumDef name => cases h; cases hk
  | aliasDef name target => cases target <;> (cases h; cases hk)
  | method owner separator name arguments => cases h
  | function name arguments => cases h; cases hk

/-! ### The walk -/

/-- **A declaration covers its marker line and the lines that it takes.** -/
theorem covers_ofMarker {file : Nat} {e : Span} (hcount : above.length = count)
    (h : (ofMarker above count text below marker).1.span? file = some e) :
    e.Covers (above.reverse ++ text :: below) := by
  let taken := (ofMarker above count text below marker).2
  obtain ⟨-, hfirst, hlast⟩ := span?_ofMarker h
  have htaken : taken ≤ below.length := taken_ofMarker_le above count text below marker
  have hlength : (above.reverse ++ text :: below).length = count + 1 + below.length := by
    simp only [List.length_append, List.length_reverse, List.length_cons]
    omega
  -- the lines of the file behind the marker line are those below it
  have hget (i : Nat) : (above.reverse ++ text :: below)[count + 1 + i]? = below[i]? := by
    rw [List.getElem?_append_right (by rw [List.length_reverse]; omega), List.length_reverse,
      hcount, show count + 1 + i - count = i + 1 by omega, List.getElem?_cons_succ]
  refine ⟨by omega, by omega, by omega, ?_, ?_⟩
  · intro line marker' hlt hle hmem
    obtain ⟨j, t, rfl, hj, hm⟩ := mem_markersFrom.1 hmem
    obtain ⟨i, rfl⟩ : ∃ i, j = count + 1 + i := ⟨j - (count + 1), by omega⟩
    have hmem' : (1 + (count + 1 + i), marker') ∈
        markersFrom (count + 2) (below.take taken) := by
      refine mem_markersFrom.2 ⟨i, t, by omega, ?_, hm⟩
      rw [List.getElem?_take_of_lt (by omega), ← hget]
      exact hj
    refine declared?_of_mem_tail_dispatched (x := (ofMarker above count text below marker).1)
      (p := (1 + (count + 1 + i), marker')) ?_
    rw [dispatched_ofMarker]
    exact hmem'
  · intro hk hshort
    obtain ⟨next, hnext⟩ : ∃ next, below[taken]? = some next :=
      ⟨_, List.getElem?_eq_getElem (show taken < below.length by omega)⟩
    obtain ⟨marker', key, hm, hkey⟩ :=
      endsClass_eq_true_iff.1 (endsClass_behind_block h hk hnext)
    refine ⟨marker', key, mem_markersFrom.2 ⟨e.lastLine, next, Nat.add_comm .., ?_, hm⟩, hkey⟩
    rw [hlast, hget]
    exact hnext

theorem covers_of_mem_scan {file : Nat} {e : Span} (hcount : above.length = count)
    (hx : x ∈ scan above count below) (h : x.span? file = some e) :
    e.Covers (above.reverse ++ below) := by
  induction above, count, below using scan.induct with
  | case1 above count =>
    rw [scan] at hx
    cases hx
  | case2 above count text below hm ih =>
    rw [scan] at hx
    simp only [hm] at hx
    have hrest := ih (by rw [List.length_cons, hcount]) hx
    rw [List.reverse_cons, List.append_assoc] at hrest
    exact hrest
  | case3 above count text below marker hm r ih =>
    rw [scan] at hx
    simp only [hm] at hx
    rcases List.mem_cons.1 hx with rfl | hx
    · exact covers_ofMarker hcount h
    · have htaken : r.2 ≤ below.length := taken_ofMarker_le above count text below marker
      have hlength : ((below.take r.2).reverse ++ text :: above).length = count + 1 + r.2 := by
        rw [List.length_append, List.length_reverse, List.length_take, List.length_cons]
        omega
      have hrest := ih hlength hx
      -- what the block takes moves to the lines that were passed
      rw [List.reverse_append, List.reverse_reverse, List.reverse_cons, List.append_assoc,
        List.append_assoc, List.take_append_drop] at hrest
      exact hrest

/-- A block takes no line that declares a symbol. -/
theorem endsClass_of_mem_taken {t : Text}
    (h : t ∈ below.take (ofMarker above count text below marker).2) : endsClass t = false := by
  rw [← Bool.not_eq_true, endsClass_eq_true_iff]
  rintro ⟨marker', key, hm, hkey⟩
  obtain ⟨i, hi⟩ := List.mem_iff_getElem?.1 h
  have hmem : (count + 2 + i, marker') ∈
      (ofMarker above count text below marker).1.dispatched.tail := by
    rw [dispatched_ofMarker]
    exact mem_markersFrom.2 ⟨i, t, rfl, hi, hm⟩
  rw [declared?_of_mem_tail_dispatched hmem] at hkey
  cases hkey

theorem ofMarker_mem_scan {lines : List Text} {i : Nat} (htext : lines[i]? = some text)
    (hm : marker? text = some marker) (hends : endsClass text = true) :
    (ofMarker ((lines.take i).reverse ++ above) (count + i) text (lines.drop (i + 1)) marker).1 ∈
      scan above count lines := by
  induction above, count, lines using scan.induct generalizing i with
  | case1 above count => cases htext
  | case2 above count first below hnone ih =>
    rw [scan]
    simp only [hnone]
    cases i with
    | zero =>
      cases htext
      rw [hm] at hnone
      cases hnone
    | succ i =>
      have hrest := ih (i := i) htext
      rw [List.take_succ_cons, List.reverse_cons, List.append_assoc, List.drop_succ_cons,
        show count + (i + 1) = count + 1 + i by omega]
      exact hrest
  | case3 above count first below marker' hm' r =>
    rename_i ih
    rw [scan]
    simp only [hm']
    cases i with
    | zero =>
      cases htext
      rw [hm, Option.some_inj] at hm'
      subst hm'
      exact List.mem_cons_self ..
    | succ i =>
      -- the line is not taken by the block, so the walk goes on to it
      have hle : r.2 ≤ i := by
        by_contra hlt
        have hmem : text ∈ below.take r.2 := by
          refine List.mem_of_getElem? (i := i) ?_
          rw [List.getElem?_take_of_lt (by omega)]
          exact htext
        rw [endsClass_of_mem_taken hmem] at hends
        cases hends
      obtain ⟨n, rfl⟩ := Nat.exists_eq_add_of_le hle
      have hrest := ih (i := n) (by rw [List.getElem?_drop]; exact htext)
      refine List.mem_cons_of_mem _ ?_
      rw [List.take_succ_cons, List.reverse_cons, List.take_add, List.reverse_append,
        List.append_assoc, List.append_assoc, List.drop_succ_cons,
        show count + (r.2 + n + 1) = count + 1 + r.2 + n by omega]
      rw [List.drop_drop] at hrest
      exact hrest

/-- **Every line that declares a symbol starts a declaration**, with all lines above and below it in
view. -/
theorem ofMarker_mem_ofLines {lines : List Text} {i : Nat} (htext : lines[i]? = some text)
    (hm : marker? text = some marker) (hends : endsClass text = true) :
    (ofMarker (lines.take i).reverse i text (lines.drop (i + 1)) marker).1 ∈ ofLines lines := by
  have hscan : (ofMarker ((lines.take i).reverse ++ []) (0 + i) text (lines.drop (i + 1))
      marker).1 ∈ scan [] 0 lines := ofMarker_mem_scan htext hm hends
  rw [List.append_nil, Nat.zero_add] at hscan
  exact hscan

/-- **Every declaration of a file covers its span.** -/
theorem covers_of_mem_ofLines {file : Nat} {e : Span} {lines : List Text} (hx : x ∈ ofLines lines)
    (h : x.span? file = some e) : e.file = file ∧ e.Covers lines := by
  refine ⟨?_, covers_of_mem_scan rfl hx h⟩
  cases x <;> cases h <;> rfl

end Declaration

end LuaAtlas
