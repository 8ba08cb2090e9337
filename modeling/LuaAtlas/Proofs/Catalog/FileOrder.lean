import LuaAtlas.Proofs.Catalog.Mentions
import Mathlib.Logic.Equiv.Basic

/-!
# The order of files

`Catalog.ofTexts_perm` compares the catalogues of two lists of texts that differ in their order
only.  If no name is declared on two lines and no method lacks its class, then the catalogues agree
but for the numbers of symbols and the indexes of files (`Catalog.Agrees`).

While the files are read the tables differ: a name that is known already in one order is met in the
other before its declaration.  So the two runs are not compared step by step.  Each of them is
compared with what the declarations say by themselves, where the order of files makes a permutation
and nothing else (`Renumbers.perm_allSayings`).
-/

namespace LuaAtlas

/-! ### Renumbering -/

section Renumbering

variable {α β : Type} {σ : Equiv.Perm Nat} {xs ys : List α}

/-- The element with an index stands under its new index in the other list. -/
def Renumbers (σ : Equiv.Perm Nat) (xs ys : List α) : Prop := ∀ i, ys[σ i]? = xs[i]?

theorem Renumbers.symm (h : Renumbers σ xs ys) : Renumbers σ.symm ys xs := by
  intro j
  rw [← h (σ.symm j), Equiv.apply_symm_apply]

theorem Renumbers.map (h : Renumbers σ xs ys) (f : α → β) :
    Renumbers σ (xs.map f) (ys.map f) := by
  intro i
  rw [List.getElem?_map, List.getElem?_map, h i]

/-- The first index stays, the others are renumbered behind it. -/
def shift (σ : Equiv.Perm Nat) : Equiv.Perm Nat where
  toFun
    | 0 => 0
    | i + 1 => σ i + 1
  invFun
    | 0 => 0
    | i + 1 => σ.symm i + 1
  left_inv i := by cases i <;> simp
  right_inv i := by cases i <;> simp

theorem Renumbers.swap (a b : α) (l : List α) :
    Renumbers (Equiv.swap 0 1) (a :: b :: l) (b :: a :: l) := by
  intro i
  match i with
  | 0 => rfl
  | 1 => rfl
  | i + 2 =>
    rw [Equiv.swap_apply_of_ne_of_ne (by omega) (by omega)]
    rfl

/-- **Every change of the order renumbers.** -/
theorem Renumbers.exists_of_perm (h : xs.Perm ys) : ∃ σ, Renumbers σ xs ys := by
  induction h with
  | nil => exact ⟨Equiv.refl Nat, fun _ => rfl⟩
  | cons a _ ih =>
    obtain ⟨σ, hσ⟩ := ih
    refine ⟨shift σ, fun i => ?_⟩
    cases i with
    | zero => rfl
    | succ i => exact hσ i
  | swap a b l => exact ⟨Equiv.swap 0 1, .swap b a l⟩
  | trans _ _ ih ih' =>
    obtain ⟨σ, hσ⟩ := ih
    obtain ⟨τ, hτ⟩ := ih'
    exact ⟨σ.trans τ, fun i => (hτ (σ i)).trans (hσ i)⟩

/-- With their indexes the elements of both lists are the same, but for the order. -/
theorem Renumbers.perm_zipIdx (h : Renumbers σ xs ys) :
    ys.zipIdx.Perm (xs.zipIdx.map fun p => (p.1, σ p.2)) := by
  have hnodup (l : List α) : l.zipIdx.Nodup := by
    refine List.Nodup.of_map Prod.snd ?_
    rw [List.zipIdx_map_snd]
    exact List.nodup_range'
  have hinjective : Function.Injective fun p : α × Nat => (p.1, σ p.2) := by
    rintro ⟨a, i⟩ ⟨b, j⟩ heq
    obtain ⟨hab, hij⟩ := Prod.mk.inj heq
    exact Prod.ext hab (σ.injective hij)
  refine (List.perm_ext_iff_of_nodup (hnodup ys) ((hnodup xs).map hinjective)).2 ?_
  rintro ⟨y, j⟩
  rw [List.mem_map, List.mem_zipIdx_iff_getElem?]
  constructor
  · intro hy
    refine ⟨(y, σ.symm j), List.mem_zipIdx_iff_getElem?.2 ?_, ?_⟩
    · rw [← h (σ.symm j), Equiv.apply_symm_apply]
      exact hy
    · rw [Equiv.apply_symm_apply]
  · rintro ⟨⟨x, i⟩, hx, heq⟩
    cases heq
    exact (h i).trans (List.mem_zipIdx_iff_getElem?.1 hx)

end Renumbering

variable {v : Vocabulary} {σ : Equiv.Perm Nat} {files files' : List (List Text)}

theorem Renumbers.hasMarker {file line : Nat} {marker : Marker} (h : Renumbers σ files files')
    (hm : HasMarker files file line marker) : HasMarker files' (σ file) line marker := by
  obtain ⟨j, lines, text, hline, hfile, htext⟩ := hm
  exact ⟨j, lines, text, hline, (h file).trans hfile, htext⟩

theorem Renumbers.exists_marker_iff {P : Marker → Prop} (h : Renumbers σ files files') :
    (∃ file line marker, HasMarker files file line marker ∧ P marker) ↔
      ∃ file line marker, HasMarker files' file line marker ∧ P marker := by
  constructor
  · rintro ⟨file, line, marker, hm, hp⟩
    exact ⟨_, line, marker, h.hasMarker hm, hp⟩
  · rintro ⟨file, line, marker, hm, hp⟩
    exact ⟨_, line, marker, h.symm.hasMarker hm, hp⟩

theorem Renumbers.declaredOnce (h : Renumbers σ files files') (honce : DeclaredOnce files) :
    DeclaredOnce files' := by
  intro name kind file line marker kind' file' line' marker' hm hd hm' hd'
  obtain ⟨hfile, hline⟩ :=
    honce _ _ _ _ _ _ _ _ _ (h.symm.hasMarker hm) hd (h.symm.hasMarker hm') hd'
  exact ⟨σ.symm.injective hfile, hline⟩

/-- **In another order declarations say the same**, of the files under their new indexes. -/
theorem Renumbers.perm_allSayings (h : Renumbers σ files files') :
    (Declaration.allSayings v (Declaration.ofFiles files')).Perm
      ((Declaration.allSayings v (Declaration.ofFiles files)).map (·.moved σ)) := by
  have hdeclarations : (Declaration.ofFiles files').Perm
      ((Declaration.ofFiles files).map fun p => (σ p.1, p.2)) := by
    -- a file is read by itself, so its declarations move with it
    refine (h.perm_zipIdx.flatMap_right _).trans (.of_eq ?_)
    rw [Declaration.ofFiles, List.flatMap_map, List.map_flatMap]
    refine List.flatMap_congr fun p _ => ?_
    rw [List.map_map]
    rfl
  refine (hdeclarations.flatMap_right _).trans (.of_eq ?_)
  rw [Declaration.allSayings, List.flatMap_map, List.map_flatMap]
  exact List.flatMap_congr fun p _ => Declaration.sayings_move v p.1 σ p.2

/-! ### Agreement -/

/-- The name, kind and lines of a symbol, with another index for its file. -/
def Symbol.header (move : Nat → Nat) (s : Symbol) : Text × SymbolKind × Nat × Nat × Nat :=
  (s.name, s.kind, move s.file, s.firstLine, s.lastLine)

namespace Catalog

/-- A mention: its kind, and the name, file and line of what mentions, with another index for the
file. -/
def mention (move : Nat → Nat) (x : Edge × Item) : EdgeKind × Text × Nat × Nat :=
  (x.1.kind, x.2.spot move)

/-- **Catalogues that agree but for the numbers of symbols and the indexes of files.** -/
structure Agrees (move : Nat → Nat) (c c' : Catalog) : Prop where
  /-- A name has one symbol. -/
  nodup : (c.symbols.map (·.name)).Nodup
  /-- The same names have symbols. -/
  names : (c.symbols.map (·.name)).Perm (c'.symbols.map (·.name))
  /-- The same names are declared, under the same kinds and on the same lines. -/
  declared : ∀ x, x ∈ c.declared.map (·.header move) ↔ x ∈ c'.declared.map (·.header id)
  /-- The same names are unresolved. -/
  unresolved : ∀ name, name ∈ c.unresolved.map (·.name) ↔ name ∈ c'.unresolved.map (·.name)
  /-- Symbols hold the same members, with the same types as written and as read. -/
  members : ∀ s ∈ c.symbols, ∀ s' ∈ c'.symbols, s.name = s'.name →
    (s.outlines.map (·.map Reference.token move)).Perm
      (s'.outlines.map (·.map Reference.token id))
  /-- Symbols have parents of the same name. -/
  parents : ∀ s ∈ c.symbols, ∀ s' ∈ c'.symbols, s.name = s'.name →
    (s.parent.bind c.get?).map (·.name) = (s'.parent.bind c'.get?).map (·.name)
  /-- Symbols are mentioned by the same things in the same ways. -/
  mentions : ∀ s ∈ c.symbols, ∀ s' ∈ c'.symbols, s.name = s'.name →
    ∀ x, x ∈ (c.referencers s.id).map (mention move) ↔ x ∈ (c'.referencers s'.id).map (mention id)

/-! ### Two orders -/

section TwoOrders

variable {s s' : Symbol} {name : Text}

/-- **Both orders lead to the same knowledge, by names.** -/
theorem perm_unsigned_facts (hσ : Renumbers σ files files') (honce : DeclaredOnce files)
    (hknown : (draftOf v files).OwnersKnown) (hknown' : (draftOf v files').OwnersKnown) :
    ((draftOf v files).table.facts.map fun x =>
        (x.1, (draftOf v files).table.unsigned σ x.2)).Perm
      ((draftOf v files').table.facts.map fun x =>
        (x.1, (draftOf v files').table.unsigned id x.2)) := by
  have h := unsigned_facts_draftOf hknown honce σ
  have h' := unsigned_facts_draftOf hknown' (hσ.declaredOnce honce) id
  have hsaid := (hσ.perm_allSayings (v := v)).map fun y => (y.1, y.2.map id some id)
  refine h.trans (.trans (.of_eq ?_) (hsaid.symm.trans h'.symm))
  rw [List.map_map]
  exact List.map_congr_left fun y _ => Prod.ext rfl (Fact.map_map id id id some σ id y.2).symm

theorem mem_names_iff (hσ : Renumbers σ files files') (honce : DeclaredOnce files)
    (hknown : (draftOf v files).OwnersKnown) (hknown' : (draftOf v files').OwnersKnown) :
    name ∈ (draftOf v files).table.names ↔ name ∈ (draftOf v files').table.names := by
  have hperm := perm_unsigned_facts hσ honce hknown hknown'
  rw [mem_names_draftOf, mem_names_draftOf, hσ.exists_marker_iff, mem_mentioned_iff σ,
    mem_mentioned_iff id]
  simp only [hperm.mem_iff]

/-- What is declared in one order is declared in the other, at the same place. -/
theorem place_eq (hσ : Renumbers σ files files') (honce : DeclaredOnce files)
    (hs : s ∈ (draftOf v files).table.symbols) (hs' : s' ∈ (draftOf v files').table.symbols)
    (hname : s.name = s'.name) (hk : s.kind ≠ .unknown) :
    s'.kind = s.kind ∧ s'.file = σ s.file ∧ s'.firstLine = s.firstLine := by
  have honce' := hσ.declaredOnce honce
  obtain ⟨⟨marker, hm, hd⟩, -⟩ := hasMarker_of_mem hs hk
  have hm' := hσ.hasMarker hm
  obtain ⟨u, hu, huk, hkind, huname⟩ := exists_mem_symbols (v := v) hm' hd
  obtain rfl := eq_of_name_eq honce' hu hs' (huname.trans hname)
  obtain ⟨⟨marker', hm'', hd'⟩, -⟩ := hasMarker_of_mem hu huk
  obtain ⟨hfile, hline⟩ := honce' _ _ _ _ _ _ _ _ _ hm'' hd' hm' (hname ▸ hd)
  exact ⟨hkind, hfile, hline⟩

theorem kind_eq (hσ : Renumbers σ files files') (honce : DeclaredOnce files)
    (hs : s ∈ (draftOf v files).table.symbols) (hs' : s' ∈ (draftOf v files').table.symbols)
    (hname : s.name = s'.name) : s.kind = s'.kind := by
  by_cases hk : s.kind = .unknown
  · by_contra hne
    have hk' : s'.kind ≠ .unknown := fun heq => hne (hk.trans heq.symm)
    exact hne (place_eq hσ.symm (hσ.declaredOnce honce) hs' hs hname.symm hk').1
  · exact (place_eq hσ honce hs hs' hname hk).1.symm

theorem perm_known_draftOf (hσ : Renumbers σ files files') (honce : DeclaredOnce files)
    (hknown : (draftOf v files).OwnersKnown) (hknown' : (draftOf v files').OwnersKnown)
    (hs : s ∈ (draftOf v files).table.symbols) (hs' : s' ∈ (draftOf v files').table.symbols)
    (hname : s.name = s'.name) :
    (s.known.map ((draftOf v files).table.unsigned σ)).Perm
      (s'.known.map ((draftOf v files').table.unsigned id)) :=
  SymbolTable.perm_known (nodup_names honce) (nodup_names (hσ.declaredOnce honce)) hs hs' hname
    (perm_unsigned_facts hσ honce hknown hknown')

/-- What is declared in one order is declared in the other, on the same lines. -/
theorem header_eq (hσ : Renumbers σ files files') (honce : DeclaredOnce files)
    (hknown : (draftOf v files).OwnersKnown) (hknown' : (draftOf v files').OwnersKnown)
    (hs : s ∈ (draftOf v files).table.symbols) (hs' : s' ∈ (draftOf v files').table.symbols)
    (hname : s.name = s'.name) (hk : s.kind ≠ .unknown) : s.header σ = s'.header id := by
  obtain ⟨hkind, hfile, hline⟩ := place_eq hσ honce hs hs' hname hk
  have hsame := perm_known_draftOf hσ honce hknown hknown' hs hs' hname
  have hlast := SymbolTable.lastLine_eq_of_known hsame hk (hkind ▸ hk) hline.symm
  rw [Symbol.header, Symbol.header, hname, hkind, hfile, hline, hlast]
  rfl

/-- Whoever mentions a name in one order mentions it in the other. -/
theorem mem_mentions_iff (hσ : Renumbers σ files files') (honce : DeclaredOnce files)
    (hknown : (draftOf v files).OwnersKnown) (hknown' : (draftOf v files').OwnersKnown)
    (hs : s ∈ (draftOf v files).table.symbols) (hs' : s' ∈ (draftOf v files').table.symbols)
    (hname : s.name = s'.name) {x : EdgeKind × Text × Nat × Nat} :
    x ∈ ((ofDraft (draftOf v files) files).referencers s.id).map (mention σ) ↔
      x ∈ ((ofDraft (draftOf v files') files').referencers s'.id).map (mention id) := by
  have hmember (c : Catalog) (id : Nat) (move : Nat → Nat) :
      x ∈ (c.referencers id).map (mention move) ↔
        ∃ y ∈ c.referencers id, y.1.kind = x.1 ∧ y.2.spot move = x.2 := by
    rw [List.mem_map]
    exact exists_congr fun y => and_congr_right fun _ => Prod.ext_iff
  -- symbols of one name hold the same outlines, and those that hold any stand at the same place
  have hpair {u u' : Symbol} (hu : u ∈ (draftOf v files).table.symbols)
      (hu' : u' ∈ (draftOf v files').table.symbols) (hun : u.name = u'.name) {o : Outline Text} :
      (o ∈ u.outlines.map (·.map Reference.token σ) ↔
        o ∈ u'.outlines.map (·.map Reference.token id)) ∧
      (o ∈ u.outlines.map (·.map Reference.token σ) →
        (u.name, σ u.file, u.firstLine) = (u'.name, id u'.file, u'.firstLine)) := by
    have hsame := perm_known_draftOf hσ honce hknown hknown' hu hu' hun
    refine ⟨(SymbolTable.perm_outlines_of_known hsame).mem_iff, fun ho => ?_⟩
    obtain ⟨outline, houtline, -⟩ := List.mem_map.1 ho
    have hk := Symbol.kind_ne_unknown_of_mem_outlines houtline
    obtain ⟨-, hfile, hline⟩ := place_eq hσ honce hu hu' hun hk
    rw [hun, hfile, hline]
    rfl
  rw [hmember, hmember, mem_referencers_iff honce hs σ,
    mem_referencers_iff (hσ.declaredOnce honce) hs' id, hname]
  constructor
  · rintro ⟨u, hu, o, ho, hmention, hspot⟩
    obtain ⟨u', hu', hun⟩ := (mem_names_iff hσ honce hknown hknown').1 ⟨u, hu, rfl⟩
    obtain ⟨hiff, hplace⟩ := hpair (o := o) hu hu' hun.symm
    exact ⟨u', hu', o, hiff.1 ho, hmention, hplace ho ▸ hspot⟩
  · rintro ⟨u', hu', o, ho, hmention, hspot⟩
    obtain ⟨u, hu, hun⟩ := (mem_names_iff hσ honce hknown hknown').2 ⟨u', hu', rfl⟩
    obtain ⟨hiff, hplace⟩ := hpair (o := o) hu hu' hun
    exact ⟨u, hu, o, hiff.2 ho, hmention, (hplace (hiff.2 ho)).symm ▸ hspot⟩

/-- **Catalogues agree whatever the order of files.** -/
theorem agrees_draftOf (hσ : Renumbers σ files files') (honce : DeclaredOnce files)
    (hknown : (draftOf v files).OwnersKnown) (hknown' : (draftOf v files').OwnersKnown) :
    Agrees σ (ofDraft (draftOf v files) files) (ofDraft (draftOf v files') files') := by
  have hnodup := nodup_names (v := v) honce
  have hnodup' := nodup_names (v := v) (hσ.declaredOnce honce)
  have hnames (name : Text) : name ∈ (draftOf v files).table.names ↔ _ :=
    mem_names_iff hσ honce hknown hknown'
  refine ⟨hnodup, ?_, fun x => ?_, fun name => ?_, fun s hs s' hs' hname => ?_,
    fun s hs s' hs' hname => ?_, fun s hs s' hs' hname x => ?_⟩
  · refine (List.perm_ext_iff_of_nodup hnodup hnodup').2 fun name => ?_
    rw [List.mem_map, List.mem_map]
    exact hnames name
  · rw [List.mem_map, List.mem_map]
    constructor
    · rintro ⟨s, hs, rfl⟩
      obtain ⟨hmem, hk⟩ := mem_declared.1 hs
      obtain ⟨s', hs', hname⟩ := (hnames s.name).1 ⟨s, hmem, rfl⟩
      have hk' := kind_eq hσ honce hmem hs' hname.symm ▸ hk
      have hheader := header_eq hσ honce hknown hknown' hmem hs' hname.symm hk
      exact ⟨s', mem_declared.2 ⟨hs', hk'⟩, hheader.symm⟩
    · rintro ⟨s', hs', rfl⟩
      obtain ⟨hmem, hk⟩ := mem_declared.1 hs'
      obtain ⟨s, hs, hname⟩ := (hnames s'.name).2 ⟨s', hmem, rfl⟩
      have hk' := (kind_eq hσ honce hs hmem hname).symm ▸ hk
      have hheader := header_eq hσ honce hknown hknown' hs hmem hname hk'
      exact ⟨s, mem_declared.2 ⟨hs, hk'⟩, hheader⟩
  · rw [List.mem_map, List.mem_map, exists_mem_unresolved_iff, exists_mem_unresolved_iff,
      hσ.exists_marker_iff, hnames name]
  · exact SymbolTable.perm_outlines_of_known
      (perm_known_draftOf hσ honce hknown hknown' hs hs' hname)
  · have hparent (t : SymbolTable) (s : Symbol) :
        (s.parent.bind t.get?).map (·.name) = (s.parent.map t.nameOf).join := by
      cases s.parent <;> rfl
    have hsame := perm_known_draftOf hσ honce hknown hknown' hs hs' hname
    have heq := congrArg Option.join (SymbolTable.parent_eq_of_known hsame)
    rw [← hparent, ← hparent] at heq
    exact heq
  · exact mem_mentions_iff hσ honce hknown hknown' hs hs' hname

end TwoOrders

/-- **File order does not matter.**  Let no name be declared on two lines, and let neither order of
the texts leave a method without its class.  Then the catalogues agree but for numbers, whenever the
indexes of files are renumbered by the change of the order. -/
theorem ofTexts_perm (v : Vocabulary) {texts texts' : List Text} (hperm : texts.Perm texts')
    (honce : DeclaredOnce (texts.map Text.lines))
    (hknown : ∀ x ∈ (ofTexts v texts).diagnostics, x.issue.code ≠ "unknown-owner")
    (hknown' : ∀ x ∈ (ofTexts v texts').diagnostics, x.issue.code ≠ "unknown-owner") :
    (∃ σ, Renumbers σ texts texts') ∧
      ∀ σ, Renumbers σ texts texts' → Agrees σ (ofTexts v texts) (ofTexts v texts') :=
  ⟨Renumbers.exists_of_perm hperm, fun _ hσ =>
    agrees_draftOf (hσ.map Text.lines) honce hknown hknown'⟩

/-- A class mentions what the other file declares, so the symbols come in different orders. -/
theorem ofTexts_perm_pair :
    let first := "---@class A\n---@field next B[]\n---@return C\nfunction A:go() end".toList
    let second := "---@class B : D".toList
    let c := ofTexts .standard [first, second]
    let c' := ofTexts .standard [second, first]
    DeclaredOnce ([first, second].map Text.lines) ∧
      c.symbols.map (·.name) = ["A".toList, "B".toList, "C".toList, "D".toList] ∧
      c'.symbols.map (·.name) = ["D".toList, "B".toList, "A".toList, "C".toList] ∧
      Agrees (Equiv.swap 0 1) c c' := by
  intro first second c c'
  have honce : DeclaredOnce ([first, second].map Text.lines) := by decide +kernel
  have hagrees := (ofTexts_perm .standard (.swap second first []) honce (by decide +kernel)
    (by decide +kernel)).2 (Equiv.swap 0 1) (.swap first second [])
  exact ⟨honce, by decide +kernel, by decide +kernel, hagrees⟩

end Catalog

end LuaAtlas
