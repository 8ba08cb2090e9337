import LuaAtlas.Answer.Outline
import LuaAtlas.Proofs.Catalog.ByName
import LuaAtlas.Proofs.Declaration.Extent
import LuaAtlas.Proofs.Draft.Filling

/-!
# Line ranges

Every declared symbol has a range of lines, from its marker line to the end of its block.
`Catalog.ofTexts_ranges` says that the ranges of a catalogue are tight and that those of one file do
not meet, so the outline of a file lists its symbols one below the other.

A symbol may be declared several times, in blocks of different lengths, but its range is that of one
of its declarations (`exists_covers_of_mem`).  The last line is set at the end of a block, only if
the symbol was first declared at the beginning of that block, and what happens in between leaves all
ranges alone (`mem_spans_setLastLine`).
-/

namespace LuaAtlas

/-! ### Spans of symbols -/

namespace Symbol

/-- The lines of a symbol, as those of a declaration. -/
def span (s : Symbol) : Span := ⟨s.kind, s.name, s.file, s.firstLine, s.lastLine⟩

/-- The span of a symbol, if it is declared. -/
def spans (s : Symbol) : List Span := if s.kind = .unknown then [] else [s.span]

variable {s : Symbol} {x : Span}

theorem mem_spans : x ∈ s.spans ↔ s.kind ≠ .unknown ∧ x = s.span := by
  unfold spans
  split
  · rename_i hk
    simp [hk]
  · rename_i hk
    simp [hk]

/-- A span tells all that spans are made of. -/
theorem spans_congr {u : Symbol} (h : s.span = u.span) : s.spans = u.spans := by
  have hk : s.kind = u.kind := congrArg Span.kind h
  unfold spans
  rw [hk, h]

theorem outer_spans : Outer Symbol.spans where
  unknown _ _ _ _ := rfl
  mapBody s g hg := by
    apply spans_congr
    unfold span kind mapBody
    rw [hg]
  addReference s edge := by
    unfold addReference
    split <;> rfl

end Symbol

namespace Draft

variable {v : Vocabulary} {d d' : Draft} {kind : SymbolKind} {name : Text} {file line id : Nat}
  {x : Span}

/-- The spans of declared symbols, each with the number of its symbol. -/
def spans (d : Draft) : List (Nat × Span) := d.table.held Symbol.spans

theorem mem_spans {p : Nat × Span} :
    p ∈ d.spans ↔ ∃ s ∈ d.table.symbols, s.kind ≠ .unknown ∧ p = (s.id, s.span) := by
  unfold spans
  rw [SymbolTable.mem_held]
  constructor
  · rintro ⟨s, hs, hid, hx⟩
    obtain ⟨hk, hspan⟩ := Symbol.mem_spans.1 hx
    exact ⟨s, hs, hk, Prod.ext hid.symm hspan⟩
  · rintro ⟨s, hs, hk, rfl⟩
    exact ⟨s, hs, rfl, Symbol.mem_spans.2 ⟨hk, rfl⟩⟩

theorem Fills.spans_eq (h : Fills d d') : d'.spans = d.spans := h.held_eq Symbol.outer_spans

/-- A declaration covers its own line at first. -/
theorem mem_spans_declare (h : d.table.WellFormed) (hk : kind ≠ .unknown) {p : Nat × Span}
    (hp : p ∈ (d.declare kind name file line).1.spans) :
    p ∈ d.spans ∨ p = ((d.declare kind name file line).2, ⟨kind, name, file, line, line⟩) := by
  obtain ⟨u, hu, huk, rfl⟩ := mem_spans.1 hp
  have hold (hmem : u ∈ d.table.symbols) : (u.id, u.span) ∈ d.spans :=
    mem_spans.2 ⟨u, hmem, huk, rfl⟩
  unfold declare at hu ⊢
  rcases d.table.declare_cases hk name file line with ⟨s, -, he⟩ | ⟨s, -, hunknown, he⟩ |
    ⟨-, -, he⟩ <;> rw [he] at hu ⊢
  · exact Or.inl (hold hu)
  -- an unknown symbol is declared now and had no span so far
  · obtain ⟨hs, rfl, -⟩ := SymbolTable.mem_of_find?_eq_some hunknown
    rcases (h.mem_symbols_promote hs).1 hu with rfl | ⟨hu, -⟩
    · right
      show (s.id, Symbol.span _) = _
      rw [Symbol.span, SymbolTable.kind_promoted]
      rfl
    · exact Or.inl (hold hu)
  · rcases SymbolTable.mem_symbols_create.1 hu with hu | rfl
    · exact Or.inl (hold hu)
    · right
      rw [Symbol.span, SymbolTable.kind_newSymbol]
      rfl

/-- A symbol that is declared owns its number. -/
theorem eq_of_mem_spans_declare (h : d.table.WellFormed) (hk : kind ≠ .unknown)
    (hp : ((d.declare kind name file line).2, x) ∈ (d.declare kind name file line).1.spans) :
    x.kind = kind ∧ x.name = name := by
  obtain ⟨u, hu, -, he⟩ := mem_spans.1 hp
  obtain ⟨hid, rfl⟩ := Prod.mk.inj he
  obtain ⟨s, hs, hsid, hsk, hsn⟩ := h.owns_declare kind hk name file line
  have hw : (d.declare kind name file line).1.table.WellFormed := h.declare
  have hu : u = s := hw.eq_of_id_eq hu hs (hid.symm.trans hsid.symm)
  rw [hu]
  exact ⟨hsk, hsn⟩

/-- **The end of a block** is recorded for the symbol that was declared at its beginning.  All other
spans are as they were before the block. -/
theorem mem_spans_setLastLine (h : d.table.WellFormed) (hk : kind ≠ .unknown) {filled : Draft}
    (hfilled : filled.spans = (d.declare kind name file line).1.spans) (lastLine : Nat)
    {p : Nat × Span}
    (hp : p ∈ (filled.setLastLine (d.declare kind name file line).2 file line lastLine).spans) :
    p ∈ d.spans ∨ p.2 = ⟨kind, name, file, line, lastLine⟩ := by
  obtain ⟨u, hu, huk, rfl⟩ := mem_spans.1 hp
  obtain ⟨s, hs, rfl⟩ := SymbolTable.mem_symbols_modify.1 hu
  have hspan (hsk : s.kind ≠ .unknown) :
      (s.id, s.span) ∈ (d.declare kind name file line).1.spans := by
    rw [← hfilled]
    exact mem_spans.2 ⟨s, hs, hsk, rfl⟩
  by_cases hset : s.id = (d.declare kind name file line).2 ∧ s.isDeclaredAt file line
  · -- the symbol of the block: its kind and name are those of the declaration
    simp only [hset, ↓reduceIte] at huk ⊢
    right
    have hmem := hspan huk
    rw [hset.1] at hmem
    obtain ⟨hkind, hname⟩ := eq_of_mem_spans_declare h hk hmem
    have hplace := hset.2
    simp only [Symbol.isDeclaredAt, Bool.and_eq_true, beq_iff_eq] at hplace
    show (⟨s.kind, s.name, s.file, s.firstLine, lastLine⟩ : Span) = _
    rw [hplace.1, hplace.2, ← hkind, ← hname]
    rfl
  · -- any other symbol stays, and it was not declared just now at this place
    have hstays : (if s.id = (d.declare kind name file line).2 then
        (if s.isDeclaredAt file line then { s with lastLine } else s) else s) = s := by
      split
      · rename_i hid
        rw [ite_cond_eq_false _ _ (eq_false fun hat => hset ⟨hid, hat⟩)]
      · rfl
    rw [hstays] at huk ⊢
    refine (mem_spans_declare h hk (hspan huk)).imp_right fun heq => absurd ?_ hset
    obtain ⟨hid, hsp⟩ := Prod.mk.inj heq
    refine ⟨hid, ?_⟩
    have hfile : s.file = file := congrArg Span.file hsp
    have hline : s.firstLine = line := congrArg Span.firstLine hsp
    simp [Symbol.isDeclaredAt, hfile, hline]

theorem spans_linkParent (d : Draft) (id parent : Nat) (name : Text) (file line : Nat) :
    (d.linkParent id parent name file line).spans = d.spans := by
  unfold linkParent
  split
  · rfl
  · have hparent : (d.modify id ({ · with parent := some parent })).spans = d.spans :=
      SymbolTable.held_modify (fun _ => rfl) fun _ _ _ => rfl
    rw [← hparent]
    refine SymbolTable.held_modify (Symbol.spares_addChild id).id fun s _ _ => ?_
    unfold Symbol.addChild
    split <;> rfl

theorem spans_resolve (h : d.table.WellFormed) (name : Text) (file line : Nat) :
    (d.resolve name file line).1.spans = d.spans := by
  have hread : Collects file 0 [] d (d.resolve name file line).1 :=
    (Collects.refl d).resolve name line
  exact (hread.fills h).spans_eq

/-- **A declaration makes no span but its own.** -/
theorem mem_spans_enter (v : Vocabulary) (file : Nat) (h : d.table.WellFormed) (y : Declaration)
    {p : Nat × Span} (hp : p ∈ (d.enter v file y).spans) :
    p ∈ d.spans ∨ y.span? file = some p.2 := by
  have hentered := entered_enter v file h y
  generalize d.enter v file y = d' at hentered hp
  cases hentered with
  | method hfills hspan hlink =>
    rw [hfills.spans_eq] at hp
    exact Or.inl hp
  | line hk hfills hspan hlink =>
    rw [hfills.spans_eq] at hp
    refine (mem_spans_declare h hk hp).imp_right fun he => ?_
    rw [hspan, he]
  | block hk hfills hspan hlink =>
    refine (mem_spans_setLastLine h hk hfills.spans_eq _ hp).imp_right fun he => ?_
    rw [hspan, he]
  | child hused hdeclared hfills hextends hspan hlink =>
    subst hused hdeclared
    have hk : SymbolKind.classKind ≠ .unknown := by decide
    have hfilled := hfills.spans_eq.trans (spans_linkParent ..)
    -- the use of the parent and the link to it change no span
    rw [← spans_resolve h]
    refine (mem_spans_setLastLine h.resolve hk hfilled _ hp).imp_right fun he => ?_
    rw [hspan, he]

theorem mem_spans_enterAll (v : Vocabulary) (h : d.table.WellFormed)
    (declarations : List (Nat × Declaration)) {p : Nat × Span}
    (hp : p ∈ (d.enterAll v declarations).spans) :
    p ∈ d.spans ∨ ∃ y ∈ declarations, y.2.span? y.1 = some p.2 := by
  induction declarations generalizing d with
  | nil => exact Or.inl hp
  | cons y declarations ih =>
    have hw : (d.enter v y.1 y.2).table.WellFormed := (steps_enter v y.1 h y.2).wellFormed h
    rcases ih hw hp with hp | ⟨z, hz, hspan⟩
    · refine (mem_spans_enter v y.1 h y.2 hp).imp_right fun hspan => ?_
      exact ⟨y, List.mem_cons_self .., hspan⟩
    · exact Or.inr ⟨z, List.mem_cons_of_mem _ hz, hspan⟩

end Draft

theorem Declaration.exists_lines_of_mem_ofFiles {files : List (List Text)} {y : Nat × Declaration}
    (h : y ∈ ofFiles files) : ∃ lines, files[y.1]? = some lines ∧ y.2 ∈ ofLines lines := by
  obtain ⟨⟨lines, i⟩, hlines, hy⟩ := List.mem_flatMap.1 h
  obtain ⟨x, hx, rfl⟩ := List.mem_map.1 hy
  exact ⟨lines, List.mem_zipIdx_iff_getElem?.1 hlines, hx⟩

theorem HasMarker.mem_markersFrom {files : List (List Text)} {file line : Nat} {marker : Marker}
    {lines : List Text} (h : HasMarker files file line marker) (hfile : files[file]? = some lines) :
    (line, marker) ∈ markersFrom 1 lines := by
  obtain ⟨j, lines', text, rfl, hfile', htext, hmarker⟩ := h
  rw [hfile] at hfile'
  cases hfile'
  exact LuaAtlas.mem_markersFrom.2 ⟨j, text, Nat.add_comm .., htext, hmarker⟩

namespace Catalog

variable {v : Vocabulary} {files : List (List Text)} {s u : Symbol}

/-! ### Ranges -/

/-- **The range of a symbol is that of one of its declarations**, so it covers its lines. -/
theorem exists_covers_of_mem (hs : s ∈ (draftOf v files).table.symbols) (hk : s.kind ≠ .unknown) :
    ∃ lines, files[s.file]? = some lines ∧ s.span.Covers lines := by
  have hp : (s.id, s.span) ∈ (draftOf v files).spans := Draft.mem_spans.2 ⟨s, hs, hk, rfl⟩
  rw [draftOf_eq_enterAll] at hp
  rcases Draft.mem_spans_enterAll v SymbolTable.wellFormed_empty _ hp with hnone | ⟨y, hy, hspan⟩
  · cases hnone
  · obtain ⟨lines, hlines, hmem⟩ := Declaration.exists_lines_of_mem_ofFiles hy
    obtain ⟨hfile, hcovers⟩ := Declaration.covers_of_mem_ofLines hmem hspan
    refine ⟨lines, ?_, hcovers⟩
    rw [← hlines, ← hfile]
    rfl

/-- No symbol is declared inside the range of another. -/
theorem lastLine_lt_of_lt (hs : s ∈ (draftOf v files).table.symbols) (hk : s.kind ≠ .unknown)
    (hu : u ∈ (draftOf v files).table.symbols) (huk : u.kind ≠ .unknown) (hfile : s.file = u.file)
    (hlt : s.firstLine < u.firstLine) : s.lastLine < u.firstLine := by
  by_contra hle
  -- else the marker line of `u` lies in the range of `s`, where nothing is declared
  obtain ⟨lines, hlines, hcovers⟩ := exists_covers_of_mem hs hk
  obtain ⟨⟨marker, hmarker, hdeclared⟩, -⟩ := hasMarker_of_mem hu huk
  rw [← hfile] at hmarker
  have hquiet := hcovers.quiet u.firstLine marker hlt (Nat.le_of_not_lt hle)
    (hmarker.mem_markersFrom hlines)
  rw [hquiet] at hdeclared
  cases hdeclared

/-- Two symbols are not declared at one line. -/
theorem eq_of_place_eq (hs : s ∈ (draftOf v files).table.symbols) (hk : s.kind ≠ .unknown)
    (hu : u ∈ (draftOf v files).table.symbols) (huk : u.kind ≠ .unknown) (hfile : s.file = u.file)
    (hline : s.firstLine = u.firstLine) : s = u := by
  obtain ⟨⟨marker, hm, hd⟩, -⟩ := hasMarker_of_mem hs hk
  obtain ⟨⟨marker', hm', hd'⟩, -⟩ := hasMarker_of_mem hu huk
  rw [← hfile, ← hline] at hm'
  rw [hm'.marker_eq hm, hd] at hd'
  obtain ⟨hkind, hname⟩ := Prod.mk.inj (Option.some.inj hd')
  exact (wellFormed_draftOf v files).unique s hs u hu hname hkind

/-- **Ranges of one file do not meet.** -/
theorem ranges_disjoint (hs : s ∈ (draftOf v files).table.symbols) (hk : s.kind ≠ .unknown)
    (hu : u ∈ (draftOf v files).table.symbols) (huk : u.kind ≠ .unknown) (hfile : s.file = u.file)
    (hne : s ≠ u) : s.lastLine < u.firstLine ∨ u.lastLine < s.firstLine := by
  rcases Nat.lt_trichotomy s.firstLine u.firstLine with hlt | heq | hlt
  · exact Or.inl (lastLine_lt_of_lt hs hk hu huk hfile hlt)
  · exact absurd (eq_of_place_eq hs hk hu huk hfile heq) hne
  · exact Or.inr (lastLine_lt_of_lt hu huk hs hk hfile.symm hlt)

end Catalog

/-! ### Outlines -/

namespace Answer

/-- One entry of an outline stands above another: it ends before the other begins. -/
def StandsAbove (a b : Json) : Prop :=
  ∃ first last next : Nat, a.field? "line" = some (.nat first) ∧
    a.field? "end_line" = some (.nat last) ∧ b.field? "line" = some (.nat next) ∧
    first ≤ last ∧ last < next

variable {c : Catalog} {file : Nat} {s : Symbol}

theorem mem_symbolsIn : s ∈ symbolsIn c file ↔ s ∈ c.declared ∧ s.file = file := by
  rw [symbolsIn, List.mem_mergeSort, List.mem_filter, beq_iff_eq]

/-- The order of an outline holds along it. -/
theorem sorted_symbolsIn (c : Catalog) (file : Nat) :
    (symbolsIn c file).Pairwise fun a b =>
      a.firstLine < b.firstLine ∨ a.firstLine = b.firstLine ∧ a.id ≤ b.id := by
  have hsorted : (symbolsIn c file).Pairwise (outlineLe · ·) := by
    refine List.pairwise_mergeSort (fun a b c hab hbc => ?_) (fun a b => ?_) _
    · simp only [outlineLe, Bool.or_eq_true, Bool.and_eq_true, decide_eq_true_eq, beq_iff_eq] at *
      omega
    · simp only [outlineLe, Bool.or_eq_true, Bool.and_eq_true, decide_eq_true_eq, beq_iff_eq]
      omega
  refine hsorted.imp fun {a b} hab => ?_
  simpa only [outlineLe, Bool.or_eq_true, Bool.and_eq_true, decide_eq_true_eq, beq_iff_eq] using hab

theorem pairwise_symbolsIn (c : Catalog) (file : Nat) :
    (symbolsIn c file).Pairwise fun a b => a.firstLine ≤ b.firstLine := by
  refine (sorted_symbolsIn c file).imp fun {a b} hab => ?_
  omega

/-- What stands in a symbol's entry besides the parts of the symbol. -/
theorem field?_outlineSymbol (s : Symbol) :
    (outlineSymbol s).field? "id" = some (.nat s.id) ∧
      (outlineSymbol s).field? "line" = some (.nat s.firstLine) ∧
      (outlineSymbol s).field? "end_line" = some (.nat s.lastLine) := by
  unfold outlineSymbol childrenField
  split <;> exact ⟨rfl, rfl, rfl⟩

theorem outline_number {v : Volume} (h : file < v.sources.length) :
    ∃ answer, outline v (.number file) = .ok answer ∧
      answer.field? "symbols" = some (.arr ((symbolsIn v.catalog file).map outlineSymbol)) := by
  have hfile : fileAt? v.sources file = some file := by
    show (some file).filter (· < v.sources.length) = some file
    simp [h]
  unfold outline file?
  simp only [hfile]
  exact ⟨_, rfl, rfl⟩

end Answer

namespace Catalog

theorem nodup_declared (v : Vocabulary) (texts : List Text) : (ofTexts v texts).declared.Nodup := by
  rw [(perm_declared _).nodup_iff]
  exact (wellFormed_draftOf v (texts.map Text.lines)).nodup_symbols.filter _

/-- **The entries of an outline stand one above the other.** -/
theorem pairwise_standsAbove (v : Vocabulary) (texts : List Text) (file : Nat) :
    ((Answer.symbolsIn (ofTexts v texts) file).map Answer.outlineSymbol).Pairwise
      Answer.StandsAbove := by
  have hnodup : (Answer.symbolsIn (ofTexts v texts) file).Nodup := by
    unfold Answer.symbolsIn
    rw [(List.mergeSort_perm _ _).nodup_iff]
    exact (nodup_declared v texts).filter _
  rw [List.pairwise_map]
  refine ((Answer.pairwise_symbolsIn _ file).and hnodup).imp_of_mem fun {a b} ha hb hab => ?_
  obtain ⟨ha, hafile⟩ := Answer.mem_symbolsIn.1 ha
  obtain ⟨hb, hbfile⟩ := Answer.mem_symbolsIn.1 hb
  obtain ⟨hamem, hak⟩ := mem_declared.1 ha
  obtain ⟨hbmem, hbk⟩ := mem_declared.1 hb
  have hfile : a.file = b.file := hafile.trans hbfile.symm
  have hline : a.firstLine ≠ b.firstLine := fun heq =>
    hab.2 (eq_of_place_eq (v := v) hamem hak hbmem hbk hfile heq)
  obtain ⟨lines, -, hcovers⟩ := exists_covers_of_mem (v := v) hamem hak
  obtain ⟨-, hfirst, hlast⟩ := Answer.field?_outlineSymbol a
  obtain ⟨-, hnext, -⟩ := Answer.field?_outlineSymbol b
  refine ⟨a.firstLine, a.lastLine, b.firstLine, hfirst, hlast, hnext, hcovers.le, ?_⟩
  exact lastLine_lt_of_lt (v := v) hamem hak hbmem hbk hfile (Nat.lt_of_le_of_ne hab.1 hline)

/-- **Line ranges are valid, tight and disjoint.**  The range of a declared symbol lies in its file
and starts at a marker line of its kind and name.  No further line in it declares a symbol, and the
range of a class reaches to the end of the file or to the line in front of the next declaration.
Ranges of different symbols of one file do not meet.  So the outline of a file lists its symbols one
above the other, and every declared symbol stands in the outline of one file. -/
theorem ofTexts_ranges (v : Vocabulary) (texts : List Text) :
    let c := ofTexts v texts
    let files := texts.map Text.lines
    (∀ s ∈ c.declared,
      (∃ lines, files[s.file]? = some lines ∧
        1 ≤ s.firstLine ∧ s.firstLine ≤ s.lastLine ∧ s.lastLine ≤ lines.length ∧
        (s.kind = .classKind → s.lastLine = lines.length ∨
          ∃ marker key, HasMarker files s.file (s.lastLine + 1) marker ∧
            marker.declared? = some key)) ∧
      (∃ marker, HasMarker files s.file s.firstLine marker ∧
        marker.declared? = some (s.kind, s.name)) ∧
      ∀ line marker, s.firstLine < line → line ≤ s.lastLine →
        HasMarker files s.file line marker → marker.declared? = none) ∧
    (∀ s ∈ c.declared, ∀ u ∈ c.declared, s.file = u.file → s ≠ u →
      s.lastLine < u.firstLine ∨ u.lastLine < s.firstLine) ∧
    (∀ vol : Volume, vol.catalog = c → vol.sources.length = texts.length →
      ∀ i < texts.length, ∃ answer, Answer.outline vol (.number i) = .ok answer ∧
        ∃ entries, answer.field? "symbols" = some (.arr entries) ∧
          entries = (Answer.symbolsIn c i).map Answer.outlineSymbol ∧
          entries.Pairwise Answer.StandsAbove) ∧
    ∀ s ∈ c.declared, ∃! i, i < texts.length ∧ s ∈ Answer.symbolsIn c i := by
  intro c files
  refine ⟨fun s hs => ?_, fun s hs u hu => ?_, fun vol hcatalog hsources i hi => ?_,
    fun s hs => ?_⟩
  · obtain ⟨hmem, hk⟩ := mem_declared.1 hs
    obtain ⟨lines, hlines, hcovers⟩ := exists_covers_of_mem (v := v) hmem hk
    refine ⟨⟨lines, hlines, hcovers.pos, hcovers.le, hcovers.le_length, fun hclass => ?_⟩,
      (hasMarker_of_mem (v := v) hmem hk).1, fun line marker hlt hle hm => ?_⟩
    · rcases Nat.lt_or_eq_of_le hcovers.le_length with hlt | heq
      · obtain ⟨marker, key, hm, hkey⟩ := hcovers.maximal hclass hlt
        obtain ⟨j, text, hj, htext, hmarker⟩ := mem_markersFrom.1 hm
        exact Or.inr ⟨marker, key,
          ⟨j, lines, text, hj.trans (Nat.add_comm ..), hlines, htext, hmarker⟩, hkey⟩
      · exact Or.inl heq
    · exact hcovers.quiet line marker hlt hle (hm.mem_markersFrom hlines)
  · obtain ⟨hmem, hk⟩ := mem_declared.1 hs
    obtain ⟨hmem', hk'⟩ := mem_declared.1 hu
    exact ranges_disjoint (v := v) hmem hk hmem' hk'
  · obtain ⟨answer, hanswer, hsymbols⟩ := Answer.outline_number (v := vol) (hsources ▸ hi)
    rw [hcatalog] at hsymbols
    exact ⟨answer, hanswer, _, hsymbols, rfl, pairwise_standsAbove v texts i⟩
  · obtain ⟨hmem, hk⟩ := mem_declared.1 hs
    obtain ⟨lines, hlines, -⟩ := exists_covers_of_mem (v := v) hmem hk
    have hfile : s.file < texts.length := by
      rw [← List.length_map (f := Text.lines)]
      exact (List.getElem?_eq_some_iff.1 hlines).1
    refine ⟨s.file, ⟨hfile, Answer.mem_symbolsIn.2 ⟨hs, rfl⟩⟩, ?_⟩
    rintro i ⟨-, hi⟩
    exact (Answer.mem_symbolsIn.1 hi).2.symm

end Catalog

end LuaAtlas
