import LuaAtlas.Proofs.Declaration.Annotations
import LuaAtlas.Proofs.Declaration.Extent
import LuaAtlas.Proofs.TypeExpr.Described

/-!
# Tags with a type and a description

A `DescribedType` is a written type with a description behind it, a `TypeTag` is such a type with a
name in front: the line of a field or of a parameter.  Whatever the description says, the type is
cut out of it (`cut?_text`), and the name and the type are read from the line (`field?_line`,
`param?_line`).

A line that declares a symbol starts a declaration with all lines above and below it in view
(`ofMarker_mem_ofLines`), so a field that stands below the line of a class, with no other symbol
declared between them, is read as a field of this class (`exists_classDecl`).
-/

namespace LuaAtlas

/-! ### Descriptions -/

/-- **A written type with a description.**  A description starts with a visible character that does
not go on with the type, and has a blank in front. -/
structure DescribedType where
  type : TypeTree
  wellFormed : type.WellFormed
  /-- The blanks behind the type. -/
  gap : Text
  isBlank_gap : ∀ c ∈ gap, Text.isBlank c = true
  description : Text
  starts : ∀ c, description.head? = some c → Text.isBlank c = false ∧ TypeExpr.isJoint c = false
  gap_ne_nil : description ≠ [] → gap ≠ []

namespace DescribedType

/-- The type, the blanks and the description. -/
def text (t : DescribedType) : Text := t.type.render ++ (t.gap ++ t.description)

/-- **The type is cut out exactly**, whatever the description says. -/
theorem cut?_text (t : DescribedType) : TypeExpr.cut? t.text = some t.type.render := by
  have hend : TypeExpr.Ending (t.gap ++ t.description) :=
    TypeExpr.ending_append t.isBlank_gap t.starts t.gap_ne_nil
  show TypeExpr.cut? ([] ++ (t.type.render ++ (t.gap ++ t.description))) = _
  exact TypeTree.cut?_render_append t.wellFormed nofun hend

theorem isBlank_head_text (t : DescribedType) {c : Char} (h : t.text.head? = some c) :
    Text.isBlank c = false := by
  have hwritten := TypeTree.written_render t.wellFormed
  rw [text, List.head?_append_of_ne_nil _ hwritten.ne_nil] at h
  exact hwritten.trimmed.1 c h

/-- The type is read with its meaning. -/
theorem tagged_render (t : DescribedType) :
    TypeExpr.tagged .standard t.type.render false = t.type.meaning id := by
  have hread := TypeTree.read_render t.wellFormed
  rw [TypeExpr.tagged, Text.trim_eq_self (TypeTree.written_render t.wellFormed).trimmed]
  exact hread.sketch_eq

end DescribedType

/-! ### Tags -/

/-- One or more blanks. -/
structure Blanks where
  text : Text
  isBlank : ∀ c ∈ text, Text.isBlank c = true
  ne_nil : text ≠ []

namespace Blanks

variable (blanks : Blanks) {rest : Text}

theorem exists_cons : ∃ b bs, blanks.text = b :: bs ∧ Text.isBlank b = true := by
  obtain ⟨b, bs, h⟩ := List.exists_cons_of_ne_nil blanks.ne_nil
  exact ⟨b, bs, h, blanks.isBlank b (by simp [h])⟩

/-- Blanks are skipped up to the text behind them. -/
theorem skipBlanks?_append (h : ∀ c, rest.head? = some c → Text.isBlank c = false) :
    Text.skipBlanks? (blanks.text ++ rest) = some rest := by
  obtain ⟨b, bs, hcons, hb⟩ := blanks.exists_cons
  have hbs : ∀ c ∈ bs, Text.isBlank c = true := fun c hc => blanks.isBlank c (by simp [hcons, hc])
  have htrim : Text.trimLeft (bs ++ rest) = rest := by
    rw [Text.trimLeft_append_of_blank hbs, Text.trimLeft_eq_self h]
  rw [hcons, List.cons_append, Text.skipBlanks?]
  simp only [hb, ↓reduceIte, htrim]

/-- No name goes on with a blank. -/
theorem isRest_head_append {c : Char} (h : (blanks.text ++ rest).head? = some c) :
    Name.isRest c = false := by
  obtain ⟨b, bs, hcons, hb⟩ := blanks.exists_cons
  rw [hcons] at h
  cases h
  rw [← Bool.not_eq_true]
  intro hrest
  rw [Name.isBlank_of_isRest hrest] at hb
  cases hb

end Blanks

/-- **A tag for a name**: the name, its type and a description. -/
structure TypeTag extends DescribedType where
  name : Text
  /-- The blanks in front of the name. -/
  lead : Blanks
  /-- The blanks between the name and the type. -/
  between : Blanks

namespace TypeTag

variable (tag : TypeTag)

/-- What stands behind the keyword and the blanks. -/
def body : Text := tag.name ++ (tag.between.text ++ tag.text)

/-- The line of a tag that starts with a keyword. -/
def line (keyword : Text) : Text := keyword ++ (tag.lead.text ++ tag.body)

/-- **What a tag says**: its name, its type as it is written, and the meaning of the type. -/
def outline (kind : MemberKind) (file line : Nat) : MemberOutline Text :=
  { kind, name := tag.name, rawType := tag.type.render, type := tag.type.meaning id, file, line }

/-- The name has no question mark, and the type stands behind the blanks. -/
theorem readMark?_eq :
    Tag.readMark? tag.name (tag.between.text ++ tag.text) = some (⟨tag.name, false⟩, tag.text) := by
  obtain ⟨b, bs, hcons, hb⟩ := tag.between.exists_cons
  have hmark : b ≠ '?' := by
    rintro rfl
    cases hb
  have hskip := tag.between.skipBlanks?_append fun _ => tag.isBlank_head_text
  rw [hcons, List.cons_append] at hskip
  rw [hcons, List.cons_append, Tag.readMark?]
  · rw [Tag.skipGap?, hskip]
    · rfl
    · exact List.cons_ne_nil _ _
  · rintro cs ⟨⟩
    exact hmark rfl

/-! Fields. -/

section Field

variable (hname : Name.isName tag.name = true)
include hname

theorem isBlank_head_body {c : Char} (h : tag.body.head? = some c) : Text.isBlank c = false := by
  obtain ⟨d, ds, hcons, hstart⟩ := Name.exists_cons_of_isDotted (Name.isDotted_of_isName hname)
  rw [body, hcons] at h
  cases h
  exact Name.isBlank_of_isRest (Name.isRest_of_isStart hstart)

theorem readField?_body : Tag.readField? tag.body = some (⟨tag.name, false⟩, tag.text) := by
  have hread : Name.read? tag.body = some (tag.name, tag.between.text ++ tag.text) :=
    Name.read?_append_of_isName hname fun _ => tag.between.isRest_head_append
  rw [Tag.readField?, hread]
  exact tag.readMark?_eq

/-- **No visibility is taken off the name**: where the name starts with one of the words, it goes on
with a character of the name and not with a blank. -/
theorem skipVisibility?_body (hword : tag.name ∉ Tag.visibilities) :
    Tag.skipVisibility? tag.body = none := by
  obtain ⟨d, ds, hcons, -⟩ := Name.exists_cons_of_isDotted (Name.isDotted_of_isName hname)
  have hrest : ∀ c ∈ tag.name, Name.isRest c = true := by
    intro c hc
    rw [hcons, Name.isName, Bool.and_eq_true] at hname
    rw [hcons] at hc
    rcases List.mem_cons.1 hc with rfl | hc
    · exact Name.isRest_of_isStart hname.1
    · exact List.all_eq_true.1 hname.2 c hc
  have hvisible : ∀ w ∈ Tag.visibilities, w.all (!Text.isBlank ·) = true := by decide
  rw [Tag.skipVisibility?, Option.bind_eq_none_iff]
  intro rest hfound
  obtain ⟨w, hw, hafter⟩ := List.exists_of_findSome?_eq_some hfound
  rw [Text.after?_eq_some_iff, body] at hafter
  -- the word is a beginning of the name, since a blank follows the name
  rcases List.append_eq_append_iff.1 hafter with ⟨more, hmore, hbehind⟩ | ⟨more, hmore, hbehind⟩
  · cases more with
    | nil =>
      rw [List.append_nil] at hmore
      exact absurd (hmore ▸ hw) hword
    | cons c more =>
      obtain ⟨b, bs, hblanks, hb⟩ := tag.between.exists_cons
      rw [hblanks, List.cons_append, List.cons_append] at hbehind
      have hc := List.all_eq_true.1 (hvisible w hw) c (by simp [hmore])
      simp [← (List.cons.inj hbehind).1, hb] at hc
  · cases more with
    | nil =>
      rw [List.append_nil] at hmore
      exact absurd (hmore ▸ hw) hword
    | cons c more =>
      have hc : Text.isBlank c = false :=
        Name.isBlank_of_isRest (hrest c (by simp [hmore]))
      rw [hbehind, List.cons_append, Text.skipBlanks?]
      simp [hc]

/-- **The line of a field** gives its name and what stands behind it. -/
theorem field?_line (hword : tag.name ∉ Tag.visibilities) :
    Tag.field? (tag.line "---@field".toList) = some (⟨tag.name, false⟩, tag.text) := by
  have hafter : Text.after? "---@field".toList (tag.line "---@field".toList) =
      some (tag.lead.text ++ tag.body) := Text.after?_eq_some_iff.2 rfl
  have hskip := tag.lead.skipBlanks?_append fun _ => tag.isBlank_head_body hname
  rw [Tag.field?, hafter]
  simp only [Option.bind_eq_bind, Option.bind_some, hskip, tag.skipVisibility?_body hname hword,
    Option.bind_none, Option.none_or, tag.readField?_body hname]

end Field

/-- The line of a field is no marker line. -/
theorem marker?_line : marker? (tag.line "---@field".toList) = none := rfl

/-! Parameters. -/

/-- **The line of a parameter** gives its name and what stands behind it, also if it is indented. -/
theorem param?_line (hname : Name.IsParam tag.name) {indent : Text}
    (hindent : ∀ c ∈ indent, Text.isBlank c = true) :
    Tag.param? (indent ++ tag.line "---@param".toList) = some (⟨tag.name, false⟩, tag.text) := by
  have htrim : Text.trimLeft (indent ++ tag.line "---@param".toList) =
      tag.line "---@param".toList :=
    (Text.trimLeft_append_of_blank hindent _).trans (Text.trimLeft_cons (by decide) _)
  have hafter : Text.after? "---@param".toList (tag.line "---@param".toList) =
      some (tag.lead.text ++ tag.body) := Text.after?_eq_some_iff.2 rfl
  have hhead : ∀ c, tag.body.head? = some c → Text.isBlank c = false := by
    intro c hc
    rw [body, List.head?_append_of_ne_nil _ hname.ne_nil] at hc
    exact Name.isBlank_of_isDottedChar (hname.isDottedChar (List.mem_of_mem_head? hc))
  have hread : Name.readParam? tag.body = some (tag.name, tag.between.text ++ tag.text) :=
    Name.readParam?_append hname fun _ => tag.between.isRest_head_append
  rw [Tag.param?, htrim, hafter]
  simp only [Option.bind_eq_bind, Option.bind_some, tag.lead.skipBlanks?_append hhead, hread]
  exact tag.readMark?_eq

/-- The parameter that the line makes. -/
theorem parameter?_line (hname : Name.IsParam tag.name) {indent : Text}
    (hindent : ∀ c ∈ indent, Text.isBlank c = true) (file line : Nat) :
    Tag.parameter? .standard file (indent ++ tag.line "---@param".toList, line) =
      some (tag.outline .parameter file line) := by
  simp only [Tag.parameter?, tag.param?_line hname hindent, Option.bind_some, tag.cut?_text,
    Option.map_some, tag.tagged_render]
  rfl

end TypeTag

/-! ### Fields in the block of a class -/

namespace Declaration

variable {lines : List Text} {i : Nat}

/-- A line of the block that holds a field gives the field, with its number. -/
theorem field_mem_classItems (above : List Text) (count : Nat) {block : List Text} {text : Text}
    {named : Tag.Named} {rest : Text} (htext : block[i]? = some text) (hm : marker? text = none)
    (hfield : Tag.field? text = some (named, rest)) :
    .field ⟨count + i + 1, named.name, named.optional, TypeExpr.cut? rest⟩ ∈
      classItems above count block := by
  induction block generalizing above count i with
  | nil => cases htext
  | cons first below ih =>
    cases i with
    | zero =>
      cases htext
      rw [classItems, hm]
      simp only [hfield]
      exact List.mem_cons_self ..
    | succ i =>
      have hbelow := ih (first :: above) (count + 1) htext
      rw [show count + 1 + i + 1 = count + (i + 1) + 1 by omega] at hbelow
      rw [classItems]
      split
      · exact List.mem_cons_of_mem _ hbelow
      · exact hbelow
      · split
        · exact List.mem_cons_of_mem _ hbelow
        · exact hbelow

/-- The lines that a test passes up to an index are among the first that it passes. -/
theorem getElem?_takeWhile {p : Text → Bool} {n : Nat} {text : Text} (htext : lines[n]? = some text)
    (hp : ∀ k t, k ≤ n → lines[k]? = some t → p t = true) :
    (lines.takeWhile p)[n]? = some text := by
  induction lines generalizing n with
  | nil => cases htext
  | cons first lines ih =>
    rw [List.takeWhile_cons_of_pos (hp 0 first (Nat.zero_le n) rfl)]
    cases n with
    | zero => exact htext
    | succ n => exact ih htext fun k t hk ht => hp (k + 1) t (by omega) ht

/-- **A line in the block of a class**: it stands below the line of the class, and no line between
them declares another symbol. -/
def InClass (lines : List Text) (owner : Text) (i : Nat) : Prop :=
  ∃ j head parent, j < i ∧ lines[j]? = some head ∧
    marker? head = some (.classDef owner parent) ∧
    ∀ k t, j < k → k < i → lines[k]? = some t → endsClass t = false

/-- **A field in the block of a class is read as a field of the class.** -/
theorem exists_classDecl {owner : Text} {tag : TypeTag} (h : InClass lines owner i)
    (hname : Name.isName tag.name = true) (hword : tag.name ∉ Tag.visibilities)
    (htext : lines[i]? = some (tag.line "---@field".toList)) :
    ∃ line lastLine parent items,
      .classDecl line lastLine owner parent items ∈ ofLines lines ∧
      .field ⟨i + 1, tag.name, false, some tag.type.render⟩ ∈ items := by
  obtain ⟨j, head, parent, hj, hhead, hclass, hblock⟩ := h
  have hends : endsClass head = true := by
    rw [endsClass, hclass]
  obtain ⟨n, rfl⟩ := Nat.exists_eq_add_of_lt hj
  have hfield : ((lines.drop (j + 1)).takeWhile (!endsClass ·))[n]? =
      some (tag.line "---@field".toList) := by
    apply getElem?_takeWhile
    · rw [List.getElem?_drop, show j + 1 + n = j + n + 1 by omega]
      exact htext
    · intro k t hk ht
      rw [List.getElem?_drop] at ht
      rcases Nat.lt_or_eq_of_le hk with hk | rfl
      · rw [hblock (j + 1 + k) t (by omega) (by omega) ht]
        rfl
      · rw [show j + 1 + k = j + k + 1 by omega, htext] at ht
        cases ht
        rw [endsClass, tag.marker?_line]
        rfl
  have hmem := field_mem_classItems (head :: (lines.take j).reverse) (j + 1) hfield
    tag.marker?_line (tag.field?_line hname hword)
  rw [tag.cut?_text, show j + 1 + n + 1 = j + n + 1 + 1 by omega] at hmem
  exact ⟨_, _, _, _, ofMarker_mem_ofLines hhead hclass hends, hmem⟩

end Declaration

end LuaAtlas
