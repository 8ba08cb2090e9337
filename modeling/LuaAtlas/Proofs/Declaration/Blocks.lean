import LuaAtlas.Proofs.Declaration.Dispatch
import LuaAtlas.Proofs.Declaration.Entries
import Mathlib.Data.List.Forall2

/-!
# Blocks that are read line by line

The table of an enumeration is read one line at a time: a line is freed from its comment, cut at its
commas, and looked through for the closing brace.  What a single line gives is stated by `Holds` and
`Ends`; a line that holds values puts them in front of what the lines below it give, and the line
that ends the table is the last one.  So the block of a whole table follows by induction over its
lines (`enumBlock_table`).  One fact holds of all lines: no value ever holds a comma, a brace or two
dashes (`clean_of_mem_enumBlock`).

Lines that start with an assignment, or with a mark other than a dash, are no marker lines
(`isMarkerLine_assignment`, `isMarkerLine_of_head?`).  A file with one marker line has
one declaration (`ofLines_cons`).
-/

namespace LuaAtlas

/-! ### Lines without a marker -/

section Markers

variable {line : Text}

theorem Text.after?_eq_none {c : Char} {start : Text} (h : line.head? ≠ some c) :
    Text.after? (c :: start) line = none := by
  cases line with
  | nil => rfl
  | cons d line =>
    have hne : c ≠ d := fun e => h (by rw [e]; rfl)
    rw [Text.after?]
    simp [hne]

theorem Name.readDotted?_eq_none {t : Text} (h : ∀ c, t.head? = some c → isStart c = false) :
    readDotted? t = none := by
  cases t with
  | nil => rfl
  | cons c t => simp [readDotted?, h c rfl]

theorem Name.read?_eq_none {t : Text} (h : ∀ c, t.head? = some c → isStart c = false) :
    read? t = none := by
  cases t with
  | nil => rfl
  | cons c t => simp [read?, h c rfl]

/-- **A line without a marker** starts with no dash, and no name follows the word `function` in
it. -/
theorem isMarkerLine_eq_false (hdash : line.head? ≠ some '-')
    (hname : ∀ t, Marker.skipFunction? line = some t →
      ∀ c, t.head? = some c → Name.isStart c = false) : isMarkerLine line = false := by
  have hclass : Marker.readClass? line = none := by
    show (Text.after? ('-' :: "--@class".toList) line).bind _ = none
    rw [Text.after?_eq_none hdash]
    rfl
  have henum : Marker.readEnum? line = none := by
    show (Text.after? ('-' :: "--@enum".toList) line).bind _ = none
    rw [Text.after?_eq_none hdash]
    rfl
  have halias : Marker.readAlias? line = none := by
    show (Text.after? ('-' :: "--@alias".toList) line).bind _ = none
    rw [Text.after?_eq_none hdash]
    rfl
  have hmethod : Marker.readMethod? line = none := by
    rw [Marker.readMethod?]
    cases hskip : Marker.skipFunction? line with
    | none => rfl
    | some t =>
      show (Name.readDotted? t).bind _ = none
      rw [Name.readDotted?_eq_none (hname t hskip)]
      rfl
  have hfunction : Marker.readFunction? line = none := by
    rw [Marker.readFunction?]
    cases hskip : Marker.skipFunction? line with
    | none => rfl
    | some t =>
      show (Name.read? t).bind _ = none
      rw [Name.read?_eq_none (hname t hskip)]
      rfl
  simp [isMarkerLine, classify, Marker.readers, hclass, henum, halias, hmethod, hfunction]

/-- A line whose first visible character does not start the word `function`. -/
theorem isMarkerLine_of_head? (hdash : line.head? ≠ some '-')
    (hhead : (Text.trimLeft line).head? ≠ some 'f') : isMarkerLine line = false := by
  refine isMarkerLine_eq_false hdash fun t ht => ?_
  have hnone : Text.after? ('f' :: "unction".toList) (Text.trimLeft line) = none :=
    Text.after?_eq_none hhead
  rw [Marker.skipFunction?, show "function".toList = 'f' :: "unction".toList from rfl, hnone] at ht
  cases ht

/-- **An assignment is no marker line**, also one to the word `function`. -/
theorem isMarkerLine_assignment {key rest : Text} (hdash : line.head? ≠ some '-')
    (hkey : ∀ c ∈ key, Text.isBlank c = false)
    (hline : Text.trimLeft line = key ++ ' ' :: '=' :: rest) : isMarkerLine line = false := by
  refine isMarkerLine_eq_false hdash fun t ht c hc => ?_
  obtain ⟨u, hu, ht⟩ := Option.bind_eq_some_iff.1 ht
  rw [Text.after?_eq_some_iff, hline] at hu
  cases u with
  | nil => cases ht
  | cons b u =>
    rw [Text.skipBlanks?] at ht
    split at ht
    · rename_i hb
      have hword : "function".toList.all (!Text.isBlank ·) = true := by decide
      -- both words end at the first blank, so the key is the word itself
      have htake := congrArg (List.takeWhile (!Text.isBlank ·)) hu
      rw [List.takeWhile_append_of_pos (by simpa using hkey),
        List.takeWhile_append_of_pos (List.all_eq_true.1 hword)] at htake
      have hkey' : key = "function".toList := by
        simpa [hb, show Text.isBlank ' ' = true by decide] using htake
      rw [hkey'] at hu
      obtain ⟨-, hu⟩ := List.cons.inj (List.append_cancel_left hu)
      rw [← hu, Text.trimLeft_cons (by decide)] at ht
      cases ht
      cases hc
      decide
    · cases ht

end Markers

namespace Declaration

/-! ### Comments -/

variable {t u : Text}

theorem beforeComment_cons {c : Char} (h : c ≠ '-' ∨ t.head? ≠ some '-') :
    beforeComment (c :: t) = c :: beforeComment t := by
  rw [beforeComment]
  rintro _ rfl rfl
  rcases h with h | h
  · exact h rfl
  · exact h rfl

/-- What stands in front of a comment is kept. -/
theorem beforeComment_append (ht : Text.NoDashes t)
    (h : t.getLast? ≠ some '-' ∨ u.head? ≠ some '-') :
    beforeComment (t ++ u) = t ++ beforeComment u := by
  induction t with
  | nil => rfl
  | cons c t ih =>
    obtain ⟨hhead, htail⟩ := List.isChain_cons.1 ht
    have hnext : c ≠ '-' ∨ (t ++ u).head? ≠ some '-' := by
      by_cases hc : c = '-'
      · refine Or.inr fun he => ?_
        cases t with
        | nil =>
          rcases h with h | h
          · exact h (by rw [hc]; rfl)
          · exact h he
        | cons d t => exact hhead d rfl ⟨hc, by simpa using he⟩
      · exact Or.inl hc
    have hlast : t.getLast? ≠ some '-' ∨ u.head? ≠ some '-' := by
      rcases h with h | h
      · cases t with
        | nil => exact Or.inl (by simp)
        | cons d t => exact Or.inl (by rwa [List.getLast?_cons_cons] at h)
      · exact Or.inr h
    rw [List.cons_append, beforeComment_cons hnext, ih htail hlast]
    rfl

theorem beforeComment_eq_self (h : Text.NoDashes t) : beforeComment t = t := by
  have happend := beforeComment_append (u := []) h (Or.inr (by simp))
  rw [List.append_nil] at happend
  rw [happend]
  exact List.append_nil t

theorem beforeComment_isPrefix (t : Text) : beforeComment t <+: t := by
  fun_induction beforeComment t with
  | case1 => exact List.prefix_rfl
  | case2 => exact List.nil_prefix
  | case3 c cs _ ih => exact List.cons_prefix_cons.2 ⟨rfl, ih⟩

/-- No two dashes stand in front of a comment. -/
theorem noDashes_beforeComment (t : Text) : Text.NoDashes (beforeComment t) := by
  fun_induction beforeComment t with
  | case1 => exact .nil
  | case2 => exact .nil
  | case3 c cs h ih =>
    refine List.isChain_cons.2 ⟨?_, ih⟩
    rintro d hd ⟨rfl, rfl⟩
    -- the second dash would stand in the text as well, and start a comment with the first one
    obtain ⟨rest, hrest⟩ := beforeComment_isPrefix cs
    cases hbody : beforeComment cs with
    | nil =>
      rw [hbody] at hd
      cases hd
    | cons e body =>
      rw [hbody] at hd hrest
      cases hd
      exact h _ rfl hrest.symm

/-! ### The lines of a table -/

/-- A name with a value, on the line with the given number. -/
def valueAt (line : Nat) (pair : Text × Text) : EnumValue := ⟨line, pair.1, pair.2⟩

/-- The value that stands between two commas. -/
def valueIn? (line : Nat) (piece : Text) : Option EnumValue :=
  (Tag.entry? piece).map fun r => ⟨line, r.1.key, Text.trim r.1.value⟩

theorem enumValues_eq (line : Nat) (text : Text) :
    enumValues line text = (Bracket.splitTop ',' text).filterMap (valueIn? line) := rfl

/-- The values in lines below each other, the first of which has the given number. -/
def valuesFrom (first : Nat) : List (List (Text × Text)) → List EnumValue
  | [] => []
  | pairs :: rest => pairs.map (valueAt first) ++ valuesFrom (first + 1) rest

theorem map_valuesFrom (first : Nat) (pairss : List (List (Text × Text))) :
    (valuesFrom first pairss).map (fun e => (e.name, e.value)) = pairss.flatten := by
  induction pairss generalizing first with
  | nil => rfl
  | cons pairs rest ih =>
    rw [valuesFrom, List.map_append, ih, List.map_map, List.flatten_cons]
    congr 1
    exact List.map_id pairs

/-- One entry to a line, between the lines of the braces. -/
theorem flatten_singletons {α : Type} (f : α → Text × Text) (xs : List α) :
    ([] :: xs.map (fun x => [f x]) ++ [[]]).flatten = xs.map f := by
  have hrest : (xs.map (fun x => [f x]) ++ [[]]).flatten = xs.map f := by
    induction xs with
    | nil => rfl
    | cons x xs ih => rw [List.map_cons, List.cons_append, List.flatten_cons, ih]; rfl
  exact hrest

/-- **A line of a table that goes on below it**: the names and values in it. -/
structure Holds (inside : Text) (pairs : List (Text × Text)) : Prop where
  isOpen : '}' ∉ beforeComment inside
  values : ∀ line, enumValues line (beforeComment inside) = pairs.map (valueAt line)

/-- **The line that ends a table**: the names and values in front of the closing brace. -/
structure Ends (inside : Text) (pairs : List (Text × Text)) : Prop where
  isClosed : '}' ∈ beforeComment inside
  values : ∀ line, enumValues line ((beforeComment inside).takeWhile (· != '}')) =
    pairs.map (valueAt line)

section Blocks

variable {line inside closing opening : Text} {below lines : List Text} {count : Nat}
  {isOpen : Bool} {pairs : List (Text × Text)} {pairss : List (List (Text × Text))}

theorem enumBlock_of_holds (hmarker : isMarkerLine line = false)
    (hinside : (if isOpen then some line else afterBrace? line) = some inside)
    (h : Holds inside pairs) :
    enumBlock isOpen count (line :: below) =
      (enumBlock true (count + 1) below).cons (pairs.map (valueAt (count + 1))) := by
  have hopen : (beforeComment inside).contains '}' = false := by simpa using h.isOpen
  have hall : (beforeComment inside).takeWhile (· != '}') = beforeComment inside := by
    rw [List.takeWhile_eq_self_iff]
    intro c hc
    exact bne_iff_ne.2 fun e => h.isOpen (e ▸ hc)
  rw [enumBlock, hmarker, hinside]
  simp only [Bool.false_eq_true, ↓reduceIte, hopen, hall, h.values]

theorem enumBlock_of_ends (hmarker : isMarkerLine line = false)
    (hinside : (if isOpen then some line else afterBrace? line) = some inside)
    (h : Ends inside pairs) :
    enumBlock isOpen count (line :: below) = ⟨pairs.map (valueAt (count + 1)), .closed, 1⟩ := by
  have hclosed : (beforeComment inside).contains '}' = true := by simpa using h.isClosed
  rw [enumBlock, hmarker, hinside]
  simp only [Bool.false_eq_true, ↓reduceIte, hclosed, h.values]

/-- The lines of an open table, up to the one that ends it. -/
theorem enumBlock_lines (hlines : List.Forall₂ Holds lines pairss) (hclosing : Ends closing pairs)
    (hmarker : ∀ line ∈ lines ++ [closing], isMarkerLine line = false) (count : Nat)
    (rest : List Text) :
    enumBlock true count (lines ++ [closing] ++ rest) =
      ⟨valuesFrom (count + 1) (pairss ++ [pairs]), .closed, lines.length + 1⟩ := by
  induction hlines generalizing count with
  | nil =>
    have hend := hmarker closing (List.mem_singleton_self _)
    rw [List.nil_append, List.singleton_append, enumBlock_of_ends hend rfl hclosing]
    simp [valuesFrom]
  | @cons line pairs' lines pairss hline hlines ih =>
    have hfirst := hmarker line (List.mem_cons_self ..)
    have hbelow := ih (fun l hl => hmarker l (List.mem_cons_of_mem _ hl)) (count + 1)
    rw [List.cons_append, List.cons_append, enumBlock_of_holds hfirst rfl hline, hbelow]
    rfl

theorem afterBrace?_append (h : '{' ∉ opening) (inside : Text) :
    afterBrace? (opening ++ '{' :: inside) = some inside := by
  have hpass : ∀ c ∈ opening, (c != '{') = true := by
    intro c hc
    exact bne_iff_ne.2 fun e => h (e ▸ hc)
  unfold afterBrace?
  rw [List.dropWhile_append_of_pos hpass]
  rfl

/-- **The block of a table**, with its opening brace in front of the first of its lines, holds the
values of all lines, ends with the closing brace and takes these lines and no more. -/
theorem enumBlock_table (hopening : '{' ∉ opening) (hlines : List.Forall₂ Holds lines pairss)
    (hclosing : Ends closing pairs)
    (hmarker : ∀ line ∈ Bracket.prependFirst (opening ++ ['{']) (lines ++ [closing]),
      isMarkerLine line = false) (count : Nat) (rest : List Text) :
    enumBlock false count (Bracket.prependFirst (opening ++ ['{']) (lines ++ [closing]) ++ rest) =
      ⟨valuesFrom (count + 1) (pairss ++ [pairs]), .closed, lines.length + 1⟩ := by
  have hinside (inside : Text) : (if false then some (opening ++ ['{'] ++ inside)
      else afterBrace? (opening ++ ['{'] ++ inside)) = some inside := by
    show afterBrace? (opening ++ ['{'] ++ inside) = some inside
    rw [List.append_assoc, List.singleton_append, afterBrace?_append hopening]
  -- the first line has both braces, or else only the opening one
  cases hlines with
  | nil =>
    have hend := hmarker _ (List.mem_singleton_self _)
    show enumBlock false count ((opening ++ ['{'] ++ closing) :: rest) = _
    rw [enumBlock_of_ends hend (hinside closing) hclosing]
    simp [valuesFrom]
  | @cons line pairs' lines pairss hline hlines =>
    have hfirst := hmarker _ (List.mem_cons_self ..)
    have hbelow := enumBlock_lines hlines hclosing
      (fun l hl => hmarker l (List.mem_cons_of_mem _ hl)) (count + 1) rest
    show enumBlock false count ((opening ++ ['{'] ++ line) :: (lines ++ [closing] ++ rest)) = _
    rw [enumBlock_of_holds hfirst (hinside line) hline, hbelow]
    rfl

end Blocks

/-! ### What no value holds -/

/-- A value that was read from a line holds no comma, no brace and no two dashes. -/
theorem clean_of_mem_enumValues {line : Nat} {text : Text} {e : EnumValue}
    (htext : Text.NoDashes text) (h : e ∈ enumValues line text) :
    (∀ c ∈ e.value, Tag.endsValue c = false) ∧ Text.NoDashes e.value := by
  obtain ⟨piece, hpiece, he⟩ := List.mem_filterMap.1 h
  obtain ⟨⟨entry, rest⟩, hentry, rfl⟩ := Option.map_eq_some_iff.1 he
  obtain ⟨hwithin, hend⟩ := EnumTable.infix_of_entry? hentry
  have htrim := Text.trim_isInfix entry.value
  refine ⟨fun c hc => hend c (htrim.subset hc), ?_⟩
  exact List.IsChain.infix htext
    ((htrim.trans hwithin).trans (Bracket.infix_of_mem_splitAt hpiece))

/-- **What no value of an enumeration holds**, whatever its lines: a comma, a brace or two
dashes. -/
theorem clean_of_mem_enumBlock {isOpen : Bool} {count : Nat} {lines : List Text} {e : EnumValue}
    (h : e ∈ (enumBlock isOpen count lines).values) :
    (∀ c ∈ e.value, Tag.endsValue c = false) ∧ Text.NoDashes e.value := by
  induction lines generalizing isOpen count with
  | nil => cases h
  | cons text below ih =>
    rw [enumBlock] at h
    split at h
    · cases h
    · split at h
      · -- the table is not open yet
        exact ih h
      · rename_i inside _
        have hfront : (beforeComment inside).takeWhile (· != '}') <+: beforeComment inside :=
          List.takeWhile_prefix _
        have hinside : Text.NoDashes ((beforeComment inside).takeWhile (· != '}')) :=
          List.IsChain.infix (noDashes_beforeComment inside) hfront.isInfix
        simp only at h
        split at h
        · exact clean_of_mem_enumValues hinside h
        · rcases List.mem_append.1 h with h | h
          · exact clean_of_mem_enumValues hinside h
          · exact ih h

/-! ### Files with one marker line -/

theorem scan_eq_nil {above : List Text} {count : Nat} {lines : List Text}
    (h : ∀ line ∈ lines, isMarkerLine line = false) : scan above count lines = [] := by
  induction lines generalizing above count with
  | nil => rw [scan]
  | cons line lines ih =>
    have hnone := marker?_of_isMarkerLine_eq_false (h line (List.mem_cons_self ..))
    rw [scan]
    simp only [hnone]
    exact ih fun l hl => h l (List.mem_cons_of_mem _ hl)

/-- A file with one marker line has one declaration. -/
theorem ofLines_cons {headline : Text} {marker : Marker} {below : List Text}
    (hmarker : marker? headline = some marker)
    (hbelow : ∀ line ∈ below, isMarkerLine line = false) :
    ofLines (headline :: below) = [(ofMarker [] 0 headline below marker).1] := by
  rw [ofLines, scan]
  simp only [hmarker]
  rw [scan_eq_nil fun line hl => hbelow line (List.mem_of_mem_drop hl)]

theorem takeWhile_isMarkerLine {below : List Text}
    (hbelow : ∀ line ∈ below, isMarkerLine line = false) :
    below.takeWhile (!isMarkerLine ·) = below := by
  rw [List.takeWhile_eq_self_iff]
  intro line hl
  rw [hbelow line hl]
  rfl

end Declaration

end LuaAtlas
