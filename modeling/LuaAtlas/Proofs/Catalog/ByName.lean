import LuaAtlas.Proofs.Catalog.Resolution

/-!
# A catalogue by names

Numbers depend on the order in which names come up, names do not.  If every name is declared on one
line at most (`DeclaredOnce`), then a name has one symbol (`eq_of_name_eq`) and everything that is
known can be told with names in the place of numbers: it is what declarations say
(`unsigned_facts_draftOf`), sorted by the symbols (`SymbolTable.perm_known`).
-/

namespace LuaAtlas

/-! ### Names that are declared once -/

/-- **No name is declared on two lines.** -/
def DeclaredOnce (files : List (List Text)) : Prop :=
  ∀ name kind file line marker kind' file' line' marker',
    HasMarker files file line marker → marker.declared? = some (kind, name) →
    HasMarker files file' line' marker' → marker'.declared? = some (kind', name) →
    file = file' ∧ line = line'

theorem HasMarker.marker_eq {files : List (List Text)} {file line : Nat} {marker marker' : Marker}
    (h : HasMarker files file line marker) (h' : HasMarker files file line marker') :
    marker = marker' := by
  obtain ⟨j, lines, text, hline, hfile, htext, hmarker⟩ := h
  obtain ⟨j', lines', text', hline', hfile', htext', hmarker'⟩ := h'
  obtain rfl : j = j' := by omega
  rw [hfile] at hfile'
  cases hfile'
  rw [htext] at htext'
  cases htext'
  exact Option.some.inj (hmarker.symm.trans hmarker')

theorem Mark.mem_sites {marks : List Mark} {x : Site} :
    x ∈ sites marks ↔ ∃ m ∈ marks, m.marker.declared? = some (x.kind, x.name) ∧
      m.file = x.file ∧ m.line = x.line := by
  unfold sites
  rw [List.mem_filterMap]
  refine exists_congr fun m => and_congr_right fun _ => ?_
  unfold site?
  rw [Option.map_eq_some_iff]
  constructor
  · rintro ⟨⟨kind, name⟩, hd, rfl⟩
    exact ⟨hd, rfl, rfl⟩
  · rintro ⟨hd, hfile, hline⟩
    refine ⟨(x.kind, x.name), hd, ?_⟩
    rw [hfile, hline]

/-- No name is declared on two lines if and only if the marker lines declare different names. -/
theorem declaredOnce_iff {files : List (List Text)} :
    DeclaredOnce files ↔ ((Mark.sites (Mark.ofFiles 0 files)).map (·.name)).Nodup := by
  constructor
  · intro h
    rw [List.Nodup, List.pairwise_map, Mark.sites, List.pairwise_filterMap]
    refine List.Pairwise.imp_of_mem ?_ (Mark.pairwise_ofFiles 0 files)
    intro m m' hm hm' hbefore x hx x' hx' hname
    obtain ⟨⟨kind, name⟩, hd, rfl⟩ := Option.map_eq_some_iff.1 hx
    obtain ⟨⟨kind', name'⟩, hd', rfl⟩ := Option.map_eq_some_iff.1 hx'
    obtain rfl : name = name' := hname
    obtain ⟨hfile, hline⟩ := h name kind m.file m.line m.marker kind' m'.file m'.line m'.marker
      (Mark.mem_ofFiles_zero.1 hm) hd (Mark.mem_ofFiles_zero.1 hm') hd'
    -- one of two marker lines comes before the other
    rcases hbefore with hlt | ⟨-, hlt⟩
    · omega
    · omega
  · intro h name kind file line marker kind' file' line' marker' hm hd hm' hd'
    have hsite : (⟨kind, name, file, line⟩ : Site) ∈ Mark.sites (Mark.ofFiles 0 files) :=
      Mark.mem_sites.2 ⟨⟨file, line, marker⟩, Mark.mem_ofFiles_zero.2 hm, hd, rfl, rfl⟩
    have hsite' : (⟨kind', name, file', line'⟩ : Site) ∈ Mark.sites (Mark.ofFiles 0 files) :=
      Mark.mem_sites.2 ⟨⟨file', line', marker'⟩, Mark.mem_ofFiles_zero.2 hm', hd', rfl, rfl⟩
    have heq := List.inj_on_of_nodup_map h hsite hsite' rfl
    cases heq
    exact ⟨rfl, rfl⟩

instance (files : List (List Text)) : Decidable (DeclaredOnce files) :=
  decidable_of_iff _ declaredOnce_iff.symm

/-- Declarations declare the names of the sites among the marker lines. -/
theorem Declaration.names_ofFiles (files : List (List Text)) (first : Nat) :
    names (ofFiles files first) = (Mark.sites (Mark.ofFiles first files)).map (·.name) := by
  induction files generalizing first with
  | nil => rfl
  | cons lines rest ih =>
    have hlines (declarations : List Declaration) :
        names (declarations.map (first, ·)) =
          (Mark.sites (Mark.inFile first (declarations.flatMap dispatched))).map (·.name) := by
      induction declarations with
      | nil => rfl
      | cons x declarations ihx =>
        have hsplit : Mark.inFile first (x.dispatched ++ declarations.flatMap dispatched) = _ :=
          List.map_append
        rw [List.map_cons, names_cons, ihx, List.flatMap_cons, hsplit, Mark.sites_append,
          List.map_append, ← map_name_sites first x]
        rfl
    have hall := hlines (ofLines lines)
    rw [ofLines, dispatched_scan] at hall
    rw [ofFiles, List.zipIdx_cons, List.flatMap_cons, Mark.ofFiles, Mark.sites_append,
      List.map_append, ← ih (first + 1), ← hall]
    exact List.filterMap_append

theorem DeclaredOnce.nodup_names {files : List (List Text)} (h : DeclaredOnce files) :
    (Declaration.names (Declaration.ofFiles files)).Nodup := by
  rw [Declaration.names_ofFiles]
  exact declaredOnce_iff.1 h

/-- The marker lines of a declaration are marker lines of its file. -/
theorem Declaration.hasMarker_of_mem_dispatched {files : List (List Text)}
    {p : Nat × Declaration} (hp : p ∈ ofFiles files) {line : Nat} {marker : Marker}
    (h : (line, marker) ∈ p.2.dispatched) : HasMarker files p.1 line marker := by
  obtain ⟨⟨lines, i⟩, hlines, hp⟩ := List.mem_flatMap.1 hp
  obtain ⟨x, hx, rfl⟩ := List.mem_map.1 hp
  have hall : (line, marker) ∈ (ofLines lines).flatMap dispatched := List.mem_flatMap.2 ⟨x, hx, h⟩
  rw [ofLines, dispatched_scan, mem_markersFrom] at hall
  obtain ⟨j, text, rfl, htext, hmarker⟩ := hall
  exact ⟨j, lines, text, by omega, List.mem_zipIdx_iff_getElem?.1 hlines, htext, hmarker⟩

namespace Catalog

variable {v : Vocabulary} {files : List (List Text)} {s u : Symbol} {name : Text}

/-- **A name that is declared once has one symbol.** -/
theorem eq_of_name_eq (honce : DeclaredOnce files) (hs : s ∈ (draftOf v files).table.symbols)
    (hu : u ∈ (draftOf v files).table.symbols) (hname : s.name = u.name) : s = u := by
  have hw := wellFormed_draftOf v files
  by_cases hsk : s.kind = .unknown
  · exact hw.alone s hs u hu hname hsk
  by_cases huk : u.kind = .unknown
  · exact (hw.alone u hu s hs hname.symm huk).symm
  obtain ⟨⟨marker, hm, hd⟩, -⟩ := hasMarker_of_mem hs hsk
  obtain ⟨⟨marker', hm', hd'⟩, -⟩ := hasMarker_of_mem hu huk
  obtain ⟨hfile, hline⟩ := honce _ _ _ _ _ _ _ _ _ hm hd hm' (hname ▸ hd')
  rw [← hfile, ← hline] at hm'
  rw [← hm.marker_eq hm', hd] at hd'
  exact hw.unique s hs u hu hname (congrArg Prod.fst (Option.some.inj hd'))

theorem nodup_names (honce : DeclaredOnce files) :
    ((draftOf v files).table.symbols.map (·.name)).Nodup := by
  refine List.Nodup.map_on (fun s hs u hu => eq_of_name_eq honce hs hu) ?_
  exact (wellFormed_draftOf v files).sorted.imp fun hlt heq =>
    absurd (congrArg Symbol.id heq) (Nat.ne_of_lt hlt)

end Catalog

/-! ### Names in the place of numbers -/

/-- The outline that is known. -/
def Fact.outline? {ρ π : Type} : Fact ρ π → Option (Outline ρ)
  | holds o => some o
  | _ => none

theorem Symbol.filterMap_outline?_known (s : Symbol) :
    s.known.filterMap Fact.outline? = s.outlines := by
  have hextent : s.extent.filterMap Fact.outline? = [] := by
    unfold extent
    split <;> rfl
  have hparent : (s.parent.toList.map Fact.parent : List (Fact Reference Nat)).filterMap
      Fact.outline? = [] := by
    cases s.parent <;> rfl
  rw [known, List.filterMap_append, List.filterMap_append, hextent, hparent, List.filterMap_map]
  exact List.filterMap_some

namespace SymbolTable

variable {t t' : SymbolTable} {name : Text} {s s' : Symbol} {move move' : Nat → Nat}

/-- The name of the symbol with a number. -/
def nameOf (t : SymbolTable) (id : Nat) : Option Text := (t.get? id).map (·.name)

theorem WellFormed.nameOf_idOf (h : t.WellFormed) (hname : name ∈ t.names) :
    t.nameOf (t.idOf name) = some name := by
  cases hl : t.lookup? name with
  | none =>
    obtain ⟨u, hu, hun⟩ := hname
    exact absurd hun (lookup?_eq_none_iff.1 hl u hu)
  | some s =>
    obtain ⟨hs, hsname⟩ := mem_of_lookup?_eq_some hl
    rw [idOf_eq_of_lookup? hl, nameOf, h.get?_eq_some_iff.2 ⟨hs, rfl⟩, Option.map_some, hsname]

/-- What is known, with names for numbers and with other indexes for files. -/
def unsigned (t : SymbolTable) (move : Nat → Nat) (fact : Fact Reference Nat) :
    Fact Text (Option Text) :=
  fact.map Reference.token t.nameOf move

/-- What was said comes back when names take the place of their numbers. -/
theorem WellFormed.unsigned_signed (h : t.WellFormed) {y : Saying}
    (hparent : ∀ p, y.2 = .parent p → p ∈ t.names) :
    t.unsigned move (t.signed y).2 = y.2.map id some move := by
  obtain ⟨n, fact⟩ := y
  show (fact.map t.refer t.idOf id).map Reference.token t.nameOf move = _
  cases fact with
  | lastLine line => rfl
  | parent p => exact congrArg Fact.parent (h.nameOf_idOf (hparent p rfl))
  | holds o => exact Fact.map_map t.refer Reference.token t.idOf t.nameOf id move (.holds o)

/-- If names differ, then what is known under the name of a symbol is what is known of it. -/
theorem filter_facts (hnames : (t.symbols.map (·.name)).Nodup) (hs : s ∈ t.symbols) :
    t.facts.filter (·.1 == s.name) = s.facts := by
  obtain ⟨before, after, hsplit⟩ := List.append_of_mem hs
  rw [hsplit, List.map_append, List.map_cons, List.nodup_append, List.nodup_cons] at hnames
  obtain ⟨-, ⟨hafter, -⟩, hbefore⟩ := hnames
  have hother {symbols : List Symbol} (hne : ∀ u ∈ symbols, u.name ≠ s.name) :
      (symbols.flatMap Symbol.facts).filter (·.1 == s.name) = [] := by
    rw [List.filter_eq_nil_iff]
    rintro ⟨n, fact⟩ hmem hn
    obtain ⟨u, hu, hfact⟩ := List.mem_flatMap.1 hmem
    exact hne u hu ((Symbol.mem_facts.1 hfact).1.symm.trans (beq_iff_eq.1 hn))
  have hself : s.facts.filter (·.1 == s.name) = s.facts := by
    rw [List.filter_eq_self]
    rintro ⟨n, fact⟩ hmem
    exact beq_iff_eq.2 (Symbol.mem_facts.1 hmem).1
  rw [facts, hsplit, List.flatMap_append, List.flatMap_cons, List.filter_append,
    List.filter_append, hself, hother, hother, List.append_nil, List.nil_append]
  · exact fun u hu heq => hafter (heq ▸ List.mem_map_of_mem hu)
  · exact fun u hu heq => hbefore _ (List.mem_map_of_mem hu) _ (List.mem_cons_self ..) heq

/-- **Tables that know the same know the same of the symbols of one name.** -/
theorem perm_known (hnames : (t.symbols.map (·.name)).Nodup)
    (hnames' : (t'.symbols.map (·.name)).Nodup) (hs : s ∈ t.symbols) (hs' : s' ∈ t'.symbols)
    (hname : s.name = s'.name)
    (h : (t.facts.map fun x => (x.1, t.unsigned move x.2)).Perm
      (t'.facts.map fun x => (x.1, t'.unsigned move' x.2))) :
    (s.known.map (t.unsigned move)).Perm (s'.known.map (t'.unsigned move')) := by
  have hfilter {t : SymbolTable} {s : Symbol} {move : Nat → Nat}
      (hnames : (t.symbols.map (·.name)).Nodup) (hs : s ∈ t.symbols) :
      ((t.facts.map fun x => (x.1, t.unsigned move x.2)).filter (·.1 == s.name)).map Prod.snd =
        s.known.map (t.unsigned move) := by
    rw [List.filter_map]
    show ((t.facts.filter (·.1 == s.name)).map _).map _ = _
    rw [filter_facts hnames hs, Symbol.facts, List.map_map, List.map_map]
    rfl
  have hperm := (h.filter (·.1 == s.name)).map Prod.snd
  rw [hfilter hnames hs, hname, hfilter hnames' hs'] at hperm
  exact hperm

section Known

variable (h : (s.known.map (t.unsigned move)).Perm (s'.known.map (t'.unsigned move')))
include h

theorem perm_outlines_of_known :
    (s.outlines.map (·.map Reference.token move)).Perm
      (s'.outlines.map (·.map Reference.token move')) := by
  have houtlines (t : SymbolTable) (s : Symbol) (move : Nat → Nat) :
      (s.known.map (t.unsigned move)).filterMap Fact.outline? =
        s.outlines.map (·.map Reference.token move) := by
    have hcomp : Fact.outline? ∘ t.unsigned move =
        fun fact => fact.outline?.map (·.map Reference.token move) := by
      funext fact
      cases fact <;> rfl
    rw [List.filterMap_map, hcomp, ← List.map_filterMap, s.filterMap_outline?_known]
  have hperm := h.filterMap Fact.outline?
  rw [houtlines, houtlines] at hperm
  exact hperm

theorem parent_eq_of_known : s.parent.map t.nameOf = s'.parent.map t'.nameOf := by
  have hparent (t : SymbolTable) (s : Symbol) (move : Nat → Nat) (p : Option Text) :
      .parent p ∈ s.known.map (t.unsigned move) ↔ s.parent.map t.nameOf = some p := by
    rw [List.mem_map, Option.map_eq_some_iff]
    constructor
    · rintro ⟨fact, hmem, heq⟩
      cases fact <;> cases heq
      exact ⟨_, Symbol.parent_mem_known.1 hmem, rfl⟩
    · rintro ⟨q, hq, rfl⟩
      exact ⟨.parent q, Symbol.parent_mem_known.2 hq, rfl⟩
  refine Option.ext fun p => ?_
  rw [← hparent t s move, ← hparent t' s' move']
  exact h.mem_iff

theorem lastLine_eq_of_known (hk : s.kind ≠ .unknown) (hk' : s'.kind ≠ .unknown)
    (hfirst : s.firstLine = s'.firstLine) : s.lastLine = s'.lastLine := by
  have hline {t : SymbolTable} {s : Symbol} {move : Nat → Nat} {line : Nat} :
      .lastLine line ∈ s.known.map (t.unsigned move) ↔ .lastLine line ∈ s.known := by
    rw [List.mem_map]
    constructor
    · rintro ⟨fact, hmem, heq⟩
      cases fact <;> cases heq
      exact hmem
    · exact fun hmem => ⟨_, hmem, rfl⟩
  have hiff (line : Nat) : .lastLine line ∈ s.known ↔ .lastLine line ∈ s'.known :=
    hline.symm.trans (h.mem_iff.trans hline)
  simp only [Symbol.lastLine_mem_known] at hiff
  -- a last line that is not the first is known on both sides
  by_cases hlast : s.lastLine = s.firstLine
  · by_contra hne
    have hlast' : s'.lastLine ≠ s'.firstLine := by omega
    exact ((hiff s'.lastLine).2 ⟨hk', hlast', rfl⟩).2.1 hlast
  · exact ((hiff s.lastLine).1 ⟨hk, hlast, rfl⟩).2.2

end Known

end SymbolTable

namespace Catalog

variable {v : Vocabulary} {files : List (List Text)}

/-- **What is known is what declarations say, by names.** -/
theorem unsigned_facts_draftOf (hknown : (draftOf v files).OwnersKnown)
    (honce : DeclaredOnce files) (move : Nat → Nat) :
    ((draftOf v files).table.facts.map fun x =>
        (x.1, (draftOf v files).table.unsigned move x.2)).Perm
      ((Declaration.allSayings v (Declaration.ofFiles files)).map fun y =>
        (y.1, y.2.map id some move)) := by
  refine ((facts_draftOf hknown honce.nodup_names).map _).trans (.of_eq ?_)
  rw [List.map_map]
  refine List.map_congr_left fun y hy => Prod.ext rfl ?_
  refine (wellFormed_draftOf v files).unsigned_signed fun p hparent => ?_
  -- parents are named by marker lines, so they have symbols
  obtain ⟨n, fact⟩ := y
  obtain rfl : fact = .parent p := hparent
  obtain ⟨x, hx, hsaid⟩ := List.mem_flatMap.1 hy
  obtain ⟨-, line, marker, hmarker, rfl⟩ := Declaration.parent_mem_sayings hsaid
  exact mem_names_draftOf.2 (Or.inl ⟨x.1, line, _,
    Declaration.hasMarker_of_mem_dispatched hx hmarker, Or.inr rfl⟩)

end Catalog

end LuaAtlas
