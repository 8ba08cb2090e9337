import LuaAtlas.Catalog.Basic
import LuaAtlas.Proofs.Declaration.Blocks
import LuaAtlas.Proofs.Draft.TypeReading
import LuaAtlas.Proofs.TypeExpr.Cutting
import LuaAtlas.Proofs.TypeExpr.Tree

/-!
# Quoted options

An option of an alias is read up to a comment from `#` on, then cut where a type ends, and then read
as a type.  None of these steps knows about quotes.  So a quoted option is recorded as the literal
that it is exactly if no `#`, no loose blank and no bar outside brackets stands between its quotes
(`QuotedOption.IsWhole`, `QuotedOption.isWhole_iff`).

`Catalog.ofTexts_quotedAlias` says what follows for the alias: it stands for the quoted texts
exactly if all of them are whole.
-/

namespace LuaAtlas

/-! ### Reading an option -/

namespace Tag

variable {t : Text}

theorem optionEnd?_hash (h : '\n' ∉ t) : optionEnd? ('#' :: t) = some [] := by
  have hline : t.dropWhile (· != '\n') = [] := by
    rw [List.dropWhile_eq_nil_iff]
    intro c hc
    exact bne_iff_ne.2 fun he => h (he ▸ hc)
  show commentEnd? t = some []
  rw [commentEnd?, hline]

/-- **What is read as an option** stands at the front of the text and holds no `#`. -/
theorem exists_readOption? (h : '\n' ∉ t) :
    ∃ option rest, readOption? t = some (option, rest) ∧ option <+: t ∧ '#' ∉ option := by
  induction t with
  | nil => exact ⟨[], [], rfl, List.prefix_rfl, List.not_mem_nil⟩
  | cons c t ih =>
    rw [List.mem_cons, not_or] at h
    rw [readOption?]
    cases hend : optionEnd? (c :: t) with
    | some rest => exact ⟨[], rest, rfl, List.nil_prefix, List.not_mem_nil⟩
    | none =>
      obtain ⟨option, rest, hread, hfront, hhash⟩ := ih h.2
      have hc : c ≠ '#' := by
        rintro rfl
        rw [optionEnd?_hash h.2] at hend
        cases hend
      have hbreak : (c == '\n') = false := beq_eq_false_iff_ne.2 (Ne.symm h.1)
      refine ⟨c :: option, rest, by simp [hbreak, hread], List.cons_prefix_cons.2 ⟨rfl, hfront⟩, ?_⟩
      rw [List.mem_cons, not_or]
      exact ⟨hc.symm, hhash⟩

/-- A text without `#` and with no blank at its end is read as a whole. -/
theorem readOption?_eq_self (h : '\n' ∉ t) (hhash : '#' ∉ t)
    (hlast : ∀ c, t.getLast? = some c → Text.isBlank c = false) : readOption? t = some (t, []) := by
  induction t with
  | nil => rfl
  | cons c t ih =>
    have hvisible : ∃ d ∈ c :: t, Text.isBlank d = false :=
      ⟨_, List.getLast_mem (List.cons_ne_nil c t),
        hlast _ (List.getLast?_eq_some_getLast (List.cons_ne_nil c t))⟩
    obtain ⟨blanks, d, rest, hsplit, -, htrim⟩ := Text.exists_trimLeft_append hvisible
    have hd : d ≠ '#' := by
      rintro rfl
      exact hhash (by rw [hsplit]; simp)
    have hend : optionEnd? (c :: t) = none := by
      have hfront := htrim []
      rw [List.append_nil, List.append_nil] at hfront
      rw [optionEnd?, hfront]
      split
      · cases ‹_›
      · rename_i he
        exact absurd (List.cons.inj he).1 hd
      · rfl
    rw [List.mem_cons, not_or] at h hhash
    have hbreak : (c == '\n') = false := beq_eq_false_iff_ne.2 (Ne.symm h.1)
    have htail : readOption? t = some (t, []) := by
      refine ih h.2 hhash.2 fun e he => ?_
      cases t with
      | nil => cases he
      | cons _ _ => exact hlast e (by rw [List.getLast?_cons_cons]; exact he)
    rw [readOption?, hend]
    simp [hbreak, htail]

end Tag

/-! ### Quoted options -/

namespace QuotedOption

open TypeExpr

variable {content : Text}

/-- The line of a quoted option. -/
def line (content : Text) : Text := "---|".toList ++ ' ' :: quoted content

/-- The type that is read from the line of a quoted option. -/
def type (content : Text) : Text :=
  cutFrom 0 none (Text.trim (((Tag.readOption? (quoted content)).map (·.1)).getD []))

/-- **Nothing between the quotes ends or divides the option**: there is no `#`, every blank outside
brackets has one of the marks `|`, `,` and `:` next to it, and every bar stands inside brackets. -/
structure IsWhole (content : Text) : Prop where
  noHash : '#' ∉ content
  joined : ∀ front c back, content = front ++ c :: back → Text.isBlank c = true →
    Bracket.depthAfter 0 front = 0 →
    isJoint? (Text.trimRight front).getLast? = true ∨ isJoint? (Text.trimLeft back).head? = true
  noBar : ∀ front back, content = front ++ '|' :: back → Bracket.depthAfter 0 front ≠ 0

theorem not_mem_quoted {c : Char} (hc : c ≠ '"') (h : c ∉ content) : c ∉ quoted content := by
  simp [quoted, hc, h]

/-- Every quoted option gives one type. -/
theorem option_line (h : '\n' ∉ content) :
    ((Tag.option? (line content)).map (·.1)).bind Declaration.optionText? =
      some (.type (type content)) := by
  have hread : Tag.option? (line content) = Tag.readOption? (quoted content) := by
    have hafter : Text.after? "---|".toList (line content) = some (' ' :: quoted content) :=
      Text.after?_eq_some_iff.2 rfl
    rw [Tag.option?, hafter]
    rfl
  have htail : '\n' ∉ content ++ ['"'] := by simp [h]
  obtain ⟨option, rest, hoption, -⟩ := Tag.exists_readOption? htail
  have hfirst : Tag.readOption? (quoted content) = some ('"' :: option, rest) := by
    show (Tag.readOption? (content ++ ['"'])).map _ = _
    rw [hoption]
    rfl
  have hbetween : Literal.isBetween ['\x60'] ('"' :: option) = false := by
    cases option <;> simp [Literal.isBetween]
  have hcut : cut? ('"' :: option) = some (type content) := by
    have hne : Text.trim ('"' :: option) ≠ [] :=
      Text.trim_ne_nil (List.mem_cons_self ..) (by decide)
    rw [type, hfirst, cut?]
    split
    · rename_i hnil
      exact absurd hnil hne
    · rename_i c cs hcons
      rw [← hcons]
      rfl
  rw [hread, hfirst]
  show Declaration.optionText? ('"' :: option) = _
  rw [Declaration.optionText?, hbetween, hcut]
  rfl

/-- **The type is the quoted text** exactly if it holds no `#` and is not cut. -/
theorem type_eq_quoted_iff (h : '\n' ∉ content) :
    type content = quoted content ↔
      '#' ∉ content ∧ cutFrom 0 none (quoted content) = quoted content := by
  have hbreak : '\n' ∉ quoted content := not_mem_quoted (by decide) h
  have hwhole (hhash : '#' ∉ content) : type content = cutFrom 0 none (quoted content) := by
    rw [type, Tag.readOption?_eq_self hbreak (not_mem_quoted (by decide) hhash)
      (isTrimmed_quoted content).2]
    show cutFrom 0 none (Text.trim (quoted content)) = _
    rw [Text.trim_eq_self (isTrimmed_quoted content)]
  constructor
  · intro he
    obtain ⟨option, rest, hoption, -, hhash⟩ := Tag.exists_readOption? hbreak
    -- the type is a part of the option that was read, which holds no `#`
    have hwithin : quoted content <:+: option := by
      rw [type, hoption] at he
      rw [← he]
      exact (cutFrom_isPrefix _ _ _).isInfix.trans (Text.trim_isInfix option)
    have hcontent : '#' ∉ content := fun hmem => hhash (hwithin.subset (by simp [quoted, hmem]))
    exact ⟨hcontent, by rw [← hwhole hcontent, he]⟩
  · rintro ⟨hhash, hcut⟩
    rw [hwhole hhash, hcut]

/-- The kind of the type that an option is read as. -/
def kind (content : Text) : TypeKind := (read .standard (Text.trim (type content))).sketch.kind

/-- **A quoted option is whole** exactly if it is read as the primitive type that it is. -/
theorem isWhole_iff (h : '\n' ∉ content) :
    IsWhole content ↔ type content = quoted content ∧ kind content = .primitive := by
  have hkind (htype : type content = quoted content) : kind content = .primitive ↔
      ∀ front back, content = front ++ '|' :: back → Bracket.depthAfter 0 front ≠ 0 := by
    rw [kind, htype, Text.trim_eq_self (isTrimmed_quoted content), kind_read_quoted_iff,
      splitTop_quoted_eq_self_iff]
  constructor
  · rintro ⟨hhash, hjoined, hbar⟩
    have htype := (type_eq_quoted_iff h).2 ⟨hhash, (cutFrom_quoted_eq_self_iff content).2 hjoined⟩
    exact ⟨htype, (hkind htype).2 hbar⟩
  · rintro ⟨htype, hprimitive⟩
    obtain ⟨hhash, hcut⟩ := (type_eq_quoted_iff h).1 htype
    exact ⟨hhash, (cutFrom_quoted_eq_self_iff content).1 hcut, (hkind htype).1 hprimitive⟩

theorem IsWhole.read_type (hwhole : IsWhole content) (h : '\n' ∉ content) :
    type content = quoted content ∧
      read .standard (Text.trim (type content)) = { sketch := .primitive (quoted content) } := by
  have htype := ((isWhole_iff h).1 hwhole).1
  refine ⟨htype, ?_⟩
  rw [htype, Text.trim_eq_self (isTrimmed_quoted content)]
  exact read_quoted ((splitTop_quoted_eq_self_iff content).2 hwhole.noBar)

/-- The line of a quoted option is no marker line. -/
theorem isMarkerLine_line (content : Text) : isMarkerLine (line content) = false := rfl

theorem clean_line (h : '\n' ∉ content) :
    '\n' ∉ line content ∧ (line content).getLast? ≠ some '\r' := by
  constructor
  · intro hmem
    rcases List.mem_append.1 hmem with hmem | hmem
    · exact absurd hmem (by decide)
    · rcases List.mem_cons.1 hmem with hmem | hmem
      · exact absurd hmem (by decide)
      · exact not_mem_quoted (by decide) h hmem
  · have hconcat : line content = "---|".toList ++ ' ' :: '"' :: content ++ ['"'] := by
      simp [line, quoted]
    rw [hconcat, List.getLast?_concat]
    decide

/-- The options in the lines of an alias, the first of which has the given number. -/
def optionsFrom (first : Nat) : List Text → List (Nat × OptionText)
  | [] => []
  | content :: contents => (first, .type (type content)) :: optionsFrom (first + 1) contents

theorem aliasOptions_lines {contents : List Text} (h : ∀ content ∈ contents, '\n' ∉ content)
    (count : Nat) :
    Declaration.aliasOptions count (contents.map line) = optionsFrom (count + 1) contents := by
  induction contents generalizing count with
  | nil => rfl
  | cons content contents ih =>
    have hfirst := option_line (h content (List.mem_cons_self ..))
    have hrest := ih (fun c hc => h c (List.mem_cons_of_mem _ hc)) (count + 1)
    rw [List.map_cons, Declaration.aliasOptions, hfirst, hrest]
    rfl

end QuotedOption

/-! ### Aliases with quoted options -/

/-- An alias whose options are quoted texts. -/
structure QuotedAlias where
  name : Text
  isDotted : Name.isDotted name = true
  /-- The texts between the quotes. -/
  contents : List Text
  oneLine : ∀ content ∈ contents, '\n' ∉ content

namespace QuotedAlias

variable (t : QuotedAlias)

/-- The line of an alias's marker. -/
def headline : Text := "---@alias".toList ++ ' ' :: t.name

/-- **The text of an alias.** -/
def text : Text := Text.ofLines (t.headline :: t.contents.map QuotedOption.line) 0

theorem marker?_headline : marker? t.headline = some (.aliasDef t.name none) := by
  obtain ⟨c, cs, hname, hc⟩ := Name.exists_cons_of_isDotted t.isDotted
  have hblank := Name.isBlank_of_isRest (Name.isRest_of_isStart hc)
  have hclass : Marker.readClass? t.headline = none := rfl
  have henum : Marker.readEnum? t.headline = none := rfl
  have halias : Marker.readAlias? t.headline = some (.aliasDef t.name none, []) := by
    have hafter : Text.after? "---@alias".toList t.headline = some (' ' :: t.name) :=
      Text.after?_eq_some_iff.2 rfl
    have hskip : Text.skipBlanks? (' ' :: t.name) = some t.name := by
      show some (Text.trimLeft t.name) = _
      rw [hname, Text.trimLeft_cons hblank]
    have hread : Name.readDotted? (t.name ++ []) = some (t.name, []) :=
      Name.readDotted?_append_of_isDotted t.isDotted (by simp)
    rw [List.append_nil] at hread
    rw [Marker.readAlias?, hafter]
    simp only [Option.bind_eq_bind, Option.bind_some, hskip, hread]
    rfl
  simp [marker?, classify, Marker.readers, hclass, henum, halias]

theorem clean_lines : ∀ line ∈ t.headline :: t.contents.map QuotedOption.line,
    '\n' ∉ line ∧ line.getLast? ≠ some '\r' := by
  intro line hline
  rcases List.mem_cons.1 hline with rfl | hline
  · refine Text.clean_of_isLineBreak fun c hc => ?_
    rcases List.mem_append.1 hc with hc | hc
    · have hword : "---@alias".toList.all (!Text.isLineBreak ·) = true := by decide
      simpa using List.all_eq_true.1 hword c hc
    · rcases List.mem_cons.1 hc with rfl | hc
      · rfl
      · have hdotted := Name.isDottedChar_of_mem t.isDotted c hc
        exact EnumTable.isLineBreak_of_isPlain (EnumTable.isPlain_of_isDottedChar hdotted)
  · obtain ⟨content, hcontent, rfl⟩ := List.mem_map.1 hline
    exact QuotedOption.clean_line (t.oneLine content hcontent)

/-- The file declares the alias and nothing else. -/
theorem ofLines_text :
    Declaration.ofLines (Text.lines t.text) =
      [.aliasBlock 1 (1 + t.contents.length) t.name (QuotedOption.optionsFrom 2 t.contents)] := by
  have hbelow : ∀ line ∈ t.contents.map QuotedOption.line, isMarkerLine line = false := by
    intro line hline
    obtain ⟨content, -, rfl⟩ := List.mem_map.1 hline
    exact QuotedOption.isMarkerLine_line content
  have hblock := Declaration.takeWhile_isMarkerLine hbelow
  rw [text, Text.lines_ofLines_eq_self t.clean_lines (by simp),
    Declaration.ofLines_cons t.marker?_headline hbelow]
  simp only [Declaration.ofMarker, hblock, List.length_map,
    QuotedOption.aliasOptions_lines t.oneLine]

end QuotedAlias

/-! ### Entering an alias -/

namespace Draft

/-- The only symbol of a draft is an alias with the given options. -/
def ofAlias (s : Symbol) (options : List AliasOption) : Draft where
  table := { symbols := [{ s with body := .aliasBody options }], nextId := 1 }

/-- A whole option is put behind those that the alias has, and nothing else happens. -/
theorem enterOption_ofAlias (file line : Nat) (s : Symbol) (options : List AliasOption)
    {content : Text} (hwhole : QuotedOption.IsWhole content) (h : '\n' ∉ content) :
    (ofAlias s options).enterOption .standard file s.id
        (line, .type (QuotedOption.type content)) =
      ofAlias s (options ++
        [⟨TypeExpr.quoted content, .primitive (TypeExpr.quoted content)⟩]) := by
  obtain ⟨htype, hread⟩ := hwhole.read_type h
  simp only [enterOption, readType_eq_read, carryOut, settle, hread]
  rw [htype]
  simp only [ofAlias, modify, SymbolTable.modify, SymbolTable.resolveAll, List.foldl_nil, reportAll,
    List.map_nil, List.append_nil, List.map_singleton, beq_self_eq_true, ↓reduceIte]
  rfl

theorem foldl_enterOption_ofAlias (file first : Nat) (s : Symbol) (options : List AliasOption)
    {contents : List Text} (hwhole : ∀ content ∈ contents, QuotedOption.IsWhole content)
    (h : ∀ content ∈ contents, '\n' ∉ content) :
    (QuotedOption.optionsFrom first contents).foldl (enterOption .standard file s.id)
        (ofAlias s options) =
      ofAlias s (options ++ contents.map fun content =>
        ⟨TypeExpr.quoted content, .primitive (TypeExpr.quoted content)⟩) := by
  induction contents generalizing first options with
  | nil => simp [QuotedOption.optionsFrom]
  | cons content contents ih =>
    have hstep := enterOption_ofAlias file first s options (hwhole content (List.mem_cons_self ..))
      (h content (List.mem_cons_self ..))
    rw [QuotedOption.optionsFrom, List.foldl_cons, hstep,
      ih _ _ (fun c hc => hwhole c (List.mem_cons_of_mem _ hc))
        (fun c hc => h c (List.mem_cons_of_mem _ hc)),
      List.append_assoc, List.map_cons, List.singleton_append]

/-- The text and the kind of each option. -/
def shapes (options : List AliasOption) : List (Text × TypeKind) :=
  options.map fun o => (o.text, o.signature.kind)

/-- The first symbol of a draft has the number 0 and is an alias with options of the given
shapes. -/
def Leads (d : Draft) (expected : List (Text × TypeKind)) : Prop :=
  ∃ s options, d.table.symbols.head? = some s ∧ s.id = 0 ∧ s.body = .aliasBody options ∧
    shapes options = expected

variable {d : Draft} {expected : List (Text × TypeKind)}

/-- An option is put behind those that the first symbol has, whatever else it adds. -/
theorem Leads.enterOption (h : d.Leads expected) (file line : Nat) (text : Text) :
    (d.enterOption .standard file 0 (line, .type text)).Leads
      (expected ++ [(text, (TypeExpr.read .standard (Text.trim text)).sketch.kind)]) := by
  obtain ⟨s, options, hhead, hid, hbody, rfl⟩ := h
  have hkind : (d.readType .standard text file line).2.kind =
      (TypeExpr.read .standard (Text.trim text)).sketch.kind := by
    rw [readType_snd]
    exact TypeNode.kind_mapRefs ..
  have hfirst : (d.readType .standard text file line).1.table.symbols.head? = some s := by
    rw [readType_eq, List.head?_append, hhead]
    rfl
  let option : AliasOption := ⟨text, (d.readType .standard text file line).2⟩
  refine ⟨s.mapBody (·.addOption option), options ++ [option], ?_, hid, ?_, ?_⟩
  · show ((d.readType .standard text file line).1.table.symbols.map _).head? = _
    rw [List.head?_map, hfirst, Option.map_some, hid]
    rfl
  · rw [Symbol.mapBody, hbody]
    rfl
  · rw [shapes, List.map_append, List.map_singleton, hkind]
    rfl

theorem Leads.foldl_enterOption (h : d.Leads expected) (file first : Nat) (contents : List Text) :
    ((QuotedOption.optionsFrom first contents).foldl (Draft.enterOption .standard file 0) d).Leads
      (expected ++ contents.map fun content =>
        (QuotedOption.type content, QuotedOption.kind content)) := by
  induction contents generalizing d expected first with
  | nil => simpa [QuotedOption.optionsFrom] using h
  | cons content contents ih =>
    have hrest := ih (h.enterOption file first (QuotedOption.type content)) (first + 1)
    rw [List.append_assoc, List.singleton_append] at hrest
    exact hrest

theorem Leads.setLastLine (h : d.Leads expected) (file line lastLine : Nat) :
    (d.setLastLine 0 file line lastLine).Leads expected := by
  obtain ⟨s, options, hhead, hid, hbody, hshapes⟩ := h
  have hfirst : (s.id == 0) = true := beq_iff_eq.2 hid
  refine ⟨if s.isDeclaredAt file line then { s with lastLine } else s, options, ?_, ?_, ?_,
    hshapes⟩
  · show (d.table.symbols.map _).head? = _
    simp only [List.head?_map, hhead, Option.map_some, hfirst, ↓reduceIte]
  · split <;> exact hid
  · split <;> exact hbody

/-- The symbol of an alias that is entered first, before its options. -/
def firstAlias (file line lastLine : Nat) (name : Text) : Symbol :=
  { id := 0, name, file, firstLine := line, lastLine, body := .aliasBody [] }

theorem declare_empty_alias (file line : Nat) (name : Text) :
    ({} : Draft).declare .aliasKind name file line =
      (ofAlias (firstAlias file line line name) [], 0) := rfl

/-- **An alias is entered into an empty draft**: the first symbol has one option for each line. -/
theorem leads_enterAliasBlock (file line lastLine first : Nat) (name : Text)
    (contents : List Text) :
    (({} : Draft).enterAliasBlock .standard file line lastLine name
      (QuotedOption.optionsFrom first contents)).Leads
      (contents.map fun content => (QuotedOption.type content, QuotedOption.kind content)) := by
  have hstart : (ofAlias (firstAlias file line line name) []).Leads [] :=
    ⟨_, [], rfl, rfl, rfl, rfl⟩
  have hfilled := hstart.foldl_enterOption file first contents
  rw [List.nil_append] at hfilled
  rw [enterAliasBlock, declare_empty_alias]
  refine Leads.setLastLine ?_ file line lastLine
  simp only
  split
  · exact hfilled
  · exact hfilled

/-- **Whole options are entered as literals**, and nothing else happens as long as there are any. -/
theorem enterAliasBlock_empty (file line lastLine first : Nat) (name : Text)
    {contents : List Text} (hwhole : ∀ content ∈ contents, QuotedOption.IsWhole content)
    (h : ∀ content ∈ contents, '\n' ∉ content) :
    let d := ({} : Draft).enterAliasBlock .standard file line lastLine name
      (QuotedOption.optionsFrom first contents)
    d.table.symbols = [{ firstAlias file line lastLine name with
        body := .aliasBody (contents.map fun content =>
          ⟨TypeExpr.quoted content, .primitive (TypeExpr.quoted content)⟩) }] ∧
      (contents ≠ [] → d.diagnostics = []) := by
  have hfilled := foldl_enterOption_ofAlias file first (firstAlias file line line name) [] hwhole h
  rw [List.nil_append] at hfilled
  rw [enterAliasBlock, declare_empty_alias]
  simp only [show (firstAlias file line line name).id = 0 from rfl] at hfilled
  simp only [hfilled]
  cases contents with
  | nil =>
    refine ⟨?_, fun hne => absurd rfl hne⟩
    simp [ofAlias, hasNoOptions, firstAlias, report, setLastLine, modify, SymbolTable.modify,
      SymbolTable.get?, Symbol.isDeclaredAt, Symbol.options]
  | cons content contents =>
    simp [ofAlias, hasNoOptions, firstAlias, setLastLine, modify, SymbolTable.modify,
      SymbolTable.get?, Symbol.isDeclaredAt, Symbol.options]

end Draft

namespace Catalog

/-- **Which quoted options are literals.**  The alias stands for the quoted texts in order, each a
primitive type that mentions nothing, no other symbol is made and nothing is reported for them,
exactly if no `#`, no loose blank and no bar outside brackets stands between any quotes. -/
theorem ofTexts_quotedAlias (t : QuotedAlias) :
    (∃ s, (ofTexts .standard [t.text]).symbols = [s] ∧ s.kind = .aliasKind ∧ s.name = t.name ∧
      s.options = t.contents.map (fun content =>
        ⟨TypeExpr.quoted content, .primitive (TypeExpr.quoted content)⟩) ∧
      (t.contents ≠ [] → (ofTexts .standard [t.text]).diagnostics = [])) ↔
    ∀ content ∈ t.contents, QuotedOption.IsWhole content := by
  let d := ({} : Draft).enterAliasBlock .standard 0 1 (1 + t.contents.length) t.name
    (QuotedOption.optionsFrom 2 t.contents)
  have hdraft : draftOf .standard [Text.lines t.text] = d := by
    show (Declaration.ofLines (Text.lines t.text)).foldl (Draft.enter .standard 0) {} = _
    rw [t.ofLines_text]
    rfl
  have hcatalog : ofTexts .standard [t.text] = ofDraft d [Text.lines t.text] := by
    rw [ofTexts, List.map_singleton, hdraft]
  rw [hcatalog]
  constructor
  · rintro ⟨s, hsymbols, -, -, hoptions, -⟩ content hcontent
    -- whatever else the options bring, the alias is the first symbol and has one for each line
    obtain ⟨s', options, hhead, -, hbody, hshapes⟩ :=
      Draft.leads_enterAliasBlock 0 1 (1 + t.contents.length) 2 t.name t.contents
    have hsame : s' = s := by
      have hfirst : (ofDraft d [Text.lines t.text]).symbols.head? = some s' := hhead
      rw [hsymbols] at hfirst
      exact (Option.some.inj hfirst).symm
    rw [hsame] at hbody
    rw [show s.options = options by rw [Symbol.options, hbody]] at hoptions
    rw [hoptions, Draft.shapes, List.map_map] at hshapes
    have hpoint := List.map_inj_left.1 hshapes content hcontent
    obtain ⟨htype, hkind⟩ := Prod.mk.inj hpoint
    exact (QuotedOption.isWhole_iff (t.oneLine content hcontent)).2 ⟨htype.symm, hkind.symm⟩
  · intro hwhole
    obtain ⟨hsymbols, hdiagnostics⟩ :=
      Draft.enterAliasBlock_empty 0 1 (1 + t.contents.length) 2 t.name hwhole t.oneLine
    exact ⟨_, hsymbols, rfl, rfl, rfl, hdiagnostics⟩

/-- An alias with three quoted options; two of them have blanks, but none that is loose. -/
def threeOptions : QuotedAlias where
  name := "Side".toList
  isDotted := by decide
  contents := ["left".toList, "a, b".toList, "(c d)".toList]
  oneLine := by decide

/-- A blank may stand beside a comma or inside brackets. -/
theorem ofTexts_quotedAlias_three :
    let c := ofTexts .standard
      ["---@alias Side\n---| \"left\"\n---| \"a, b\"\n---| \"(c d)\"".toList]
    ∃ s, c.symbols = [s] ∧
      s.options.map (fun o => (o.text, o.signature.kind)) =
        [("\"left\"".toList, .primitive), ("\"a, b\"".toList, .primitive),
          ("\"(c d)\"".toList, .primitive)] ∧
      c.diagnostics = [] := by
  have htext : threeOptions.text =
      "---@alias Side\n---| \"left\"\n---| \"a, b\"\n---| \"(c d)\"".toList := by
    decide
  have hwhole : ∀ content ∈ threeOptions.contents, QuotedOption.IsWhole content := by
    intro content hcontent
    refine (QuotedOption.isWhole_iff (threeOptions.oneLine content hcontent)).2 ?_
    simp only [threeOptions, List.mem_cons, List.not_mem_nil, or_false] at hcontent
    rcases hcontent with rfl | rfl | rfl
    · exact ⟨by decide, by decide +kernel⟩
    · exact ⟨by decide, by decide +kernel⟩
    · exact ⟨by decide, by decide +kernel⟩
  obtain ⟨s, hsymbols, -, -, hoptions, hdiagnostics⟩ := (ofTexts_quotedAlias threeOptions).2 hwhole
  rw [htext] at hsymbols hdiagnostics
  refine ⟨s, hsymbols, ?_, hdiagnostics (by decide)⟩
  rw [hoptions]
  rfl

/-- A blank between quotes ends the option. -/
theorem blank_between_quotes :
    let c := ofTexts .standard ["---@alias Name\n---| \"a b\"".toList]
    c.aliases.flatMap (fun s => s.options.map (·.text)) = ["\"a".toList] ∧
      c.diagnostics.length = 1 := by
  decide +kernel

end Catalog

end LuaAtlas
