import LuaAtlas.Draft.Typing
import LuaAtlas.Proofs.Symbol.Table
import LuaAtlas.Proofs.TypeExpr.Nested

/-!
# Types read on the way and types read at once

A draft reads a type piece by piece and resolves every name where it meets it (`Draft.readTrimmed`).
`TypeExpr.read` looks at the text alone and lists the names and the issues.  Both come to the same:
what the text says may as well be carried out at the end, in one go (`readTrimmed_eq`,
`readType_eq_read`).

The numbers are the point.  A piece gets its numbers in the table of the moment, with other names
still to be resolved.  Resolving only adds names that had no symbol, so a name that was met keeps
its number (`sign_resolveAll`), and the pieces may be signed by the table that all of them leave
(`readInOrder_map`).  Merged mentions then agree, since mentions of one name have one number
(`mergedRefs_map`).
-/

namespace LuaAtlas

/-! ### Merged mentions -/

section Merging

variable {refer : Text → Reference} (hrefer : ∀ name, (refer name).token = name)

include hrefer

theorem Reference.any_map_token (seen : List Text) (name : Text) :
    ((seen.map refer).any fun q => q.token == (refer name).token) = seen.contains name := by
  rw [List.any_map, Bool.eq_iff_iff, List.any_eq_true, List.contains_iff_mem]
  simp only [Function.comp_apply, hrefer, beq_iff_eq]
  exact ⟨fun ⟨n, hn, h⟩ => h ▸ hn, fun h => ⟨name, h, rfl⟩⟩

/-- A name that was met before adds nothing, and any other one comes last. -/
theorem Reference.mergeInto_map (seen : List Text) (name : Text) :
    mergeInto (seen.map refer) (refer name) =
      (if name ∈ seen then seen else seen ++ [name]).map refer := by
  rw [mergeInto, any_map_token hrefer]
  by_cases h : name ∈ seen
  · rw [ite_cond_eq_true _ _ (eq_true (List.contains_iff_mem.2 h)),
      ite_cond_eq_true _ _ (eq_true h), List.map_map]
    refine List.map_congr_left fun n _ => ?_
    -- a mention of the same name is the same mention
    simp only [Function.comp_apply, hrefer, beq_iff_eq]
    split
    · rename_i heq
      rw [heq]
    · rfl
  · rw [ite_cond_eq_false _ _ (eq_false (mt List.contains_iff_mem.1 h)),
      ite_cond_eq_false _ _ (eq_false h), List.map_append, List.map_singleton]

theorem Reference.foldl_mergeInto_map (seen names : List Text) :
    (names.map refer).foldl mergeInto (seen.map refer) =
      (seen ++ (names.filter fun name => !seen.contains name).eraseDups).map refer := by
  induction names generalizing seen with
  | nil => simp
  | cons name names ih =>
    rw [List.map_cons, List.foldl_cons, mergeInto_map hrefer, ih]
    congr 1
    by_cases h : name ∈ seen
    · rw [ite_cond_eq_true _ _ (eq_true h), List.filter_cons_of_neg (by simpa using h)]
    · rw [ite_cond_eq_false _ _ (eq_false h), List.filter_cons_of_pos (by simpa using h),
        List.eraseDups_cons, List.filter_filter, List.append_assoc, List.singleton_append]
      congr 3
      refine List.filter_congr fun n _ => ?_
      simp only [List.contains_eq_mem, List.mem_append, List.mem_singleton]
      grind

/-- **Merging numbered mentions is numbering the merged names.** -/
theorem Signature.mergedRefs_map (sketches : List Sketch) :
    mergedRefs (sketches.map (·.mapRefs refer)) = (Sketch.mergedRefs sketches).map refer := by
  have hrefs : (sketches.map (·.mapRefs refer)).flatMap (·.refs) =
      (sketches.flatMap (·.refs)).map refer := by
    rw [List.flatMap_map, List.map_flatMap]
    exact List.flatMap_congr fun s _ => TypeNode.refs_mapRefs refer s
  rw [mergedRefs, hrefs, Sketch.mergedRefs]
  refine (Reference.foldl_mergeInto_map hrefer [] _).trans ?_
  rw [List.nil_append]
  congr 2
  exact List.filter_eq_self.2 fun _ _ => rfl

end Merging

/-! ### Numbers that stay -/

namespace SymbolTable

variable {t : SymbolTable} {v : Vocabulary} {piece : Text} {file line : Nat}

/-- The number that the use of a name gives is the one that the name has from then on. -/
theorem idOf_resolve (t : SymbolTable) (name : Text) (file line : Nat) :
    (t.resolve name file line).1.idOf name = (t.resolve name file line).2 := by
  obtain ⟨s, hs, hid⟩ := t.lookup?_resolve name file line
  rw [idOf, hs]
  exact hid

theorem resolveAll_append (t : SymbolTable) (names more : List Text) (file line : Nat) :
    t.resolveAll (names ++ more) file line =
      (t.resolveAll names file line).resolveAll more file line :=
  List.foldl_append

/-- **A type keeps its numbers** when further names are resolved behind its own. -/
theorem sign_resolveAll {names : List Text} (h : (TypeExpr.read v piece).mentions ⊆ names)
    (more : List Text) :
    ((t.resolveAll names file line).resolveAll more file line).sign
        (TypeExpr.read v piece).sketch =
      (t.resolveAll names file line).sign (TypeExpr.read v piece).sketch := by
  refine TypeExpr.mapRefs_read_congr fun name hname => ?_
  obtain ⟨s, hs⟩ : ∃ s, (t.resolveAll names file line).lookup? name = some s :=
    exists_lookup?_resolveAll (h hname)
  have hlater : ((t.resolveAll names file line).resolveAll more file line).lookup? name = some s :=
    lookup?_resolveAll_of_eq_some hs more
  rw [idOf, idOf, hs, hlater]
  rfl

/-- A type is signed part by part. -/
theorem sign_mk (t : SymbolTable) (raw : Text) (kind : TypeKind) (name : Text)
    (parts : List Sketch) (refs : List Text) (optional : Bool) :
    t.sign ⟨raw, kind, name, parts, refs, optional⟩ =
      ⟨raw, kind, name, parts.map t.sign, refs.map fun token => ⟨token, t.idOf token⟩,
        optional⟩ := by
  rw [sign, TypeNode.mapRefs, TypeNode.mapRefsList_eq_map]
  rfl

/-- Merging signed mentions is signing the merged names. -/
theorem mergedRefs_sign (t : SymbolTable) (sketches : List Sketch) :
    Signature.mergedRefs (sketches.map t.sign) =
      (Sketch.mergedRefs sketches).map fun token => ⟨token, t.idOf token⟩ :=
  Signature.mergedRefs_map (fun _ => rfl) sketches

end SymbolTable

/-- A name on its own is always a type. -/
theorem TypeExpr.issues_readName (v : Vocabulary) (raw name : Text) :
    (readName v raw name).issues = [] := by
  unfold readName
  split <;> rfl

namespace Draft

open TypeExpr (Reading)

variable {v : Vocabulary} {t : Text} {file line : Nat}

/-! ### Carrying out a reading -/

/-- Names are resolved and issues reported. -/
def settle (d : Draft) (names : List Text) (issues : List Issue) (file line : Nat) : Draft :=
  ({ d with table := d.table.resolveAll names file line }).reportAll issues file line

/-- **What a text says is carried out**: its names are resolved, its issues reported, and then it
gets the numbers of its names. -/
def carryOut (d : Draft) (r : Reading) (file line : Nat) : Draft × Signature :=
  (d.settle r.mentions r.issues file line,
    (d.table.resolveAll r.mentions file line).sign r.sketch)

theorem settle_nil (d : Draft) (file line : Nat) : d.settle [] [] file line = d := by
  simp only [settle, reportAll, List.map_nil, List.append_nil]
  rfl

theorem settle_settle (d : Draft) (names more : List Text) (issues found : List Issue)
    (file line : Nat) :
    (d.settle names issues file line).settle more found file line =
      d.settle (names ++ more) (issues ++ found) file line := by
  simp only [settle, reportAll, SymbolTable.resolveAll_append, List.map_append,
    List.append_assoc]

/-- A name on its own is resolved at once. -/
theorem readName_eq (v : Vocabulary) (d : Draft) (raw name : Text) (file line : Nat) :
    d.readName v raw name file line = d.carryOut (TypeExpr.readName v raw name) file line := by
  unfold readName TypeExpr.readName carryOut
  split
  · rw [settle_nil]
    rfl
  · refine Prod.ext_iff.2 ⟨?_, ?_⟩
    · simp only [settle, reportAll, List.map_nil, List.append_nil]
      rfl
    · show _ = (d.table.resolve name file line).1.sign _
      simp only [SymbolTable.sign, TypeNode.mapRefs, TypeNode.mapRefsList, List.map_cons,
        List.map_nil, SymbolTable.idOf_resolve]
      rfl

/-- What is reported before a type is read stands in front of its own issues. -/
theorem carryOut_report (d : Draft) (issue : Issue) (r : Reading) (file line : Nat)
    (h : r.issues = []) :
    (d.report issue file line).carryOut r file line =
      d.carryOut { r with issues := [issue] } file line := by
  unfold carryOut settle reportAll
  rw [h]
  simp only [report, List.map_nil, List.append_nil, List.map_cons]

/-! ### Pieces one after the other -/

/-- **Pieces that are read one after the other** resolve the names of all and report the issues of
all; and the numbers of each are those that the last table has. -/
theorem readInOrder_map {step : Text → Reader} {pieces : List Text}
    (hstep : ∀ p ∈ pieces, ∀ d, step p d = d.carryOut (TypeExpr.read v p) file line)
    (d : Draft) :
    let readings := pieces.map (TypeExpr.read v)
    let names := Reading.allMentions readings
    d.readInOrder (pieces.map step) =
      (d.settle names (Reading.allIssues readings) file line,
        (readings.map (·.sketch)).map (d.table.resolveAll names file line).sign) := by
  induction pieces generalizing d with
  | nil => exact Prod.ext_iff.2 ⟨(settle_nil d file line).symm, rfl⟩
  | cons p pieces ih =>
    intro readings names
    have hrest := ih (fun q hq => hstep q (List.mem_cons_of_mem _ hq))
      (d.settle (TypeExpr.read v p).mentions (TypeExpr.read v p).issues file line)
    have hnames : names =
        (TypeExpr.read v p).mentions ++ Reading.allMentions (pieces.map (TypeExpr.read v)) :=
      List.flatMap_cons
    rw [List.map_cons, readInOrder, hstep p (List.mem_cons_self ..)]
    simp only [carryOut, hrest, settle_settle]
    refine Prod.ext_iff.2 ⟨rfl, ?_⟩
    -- the names behind the first piece leave its numbers as they are
    simp only [hnames, SymbolTable.resolveAll_append]
    show _ = SymbolTable.sign _ (TypeExpr.read v p).sketch :: _
    rw [SymbolTable.sign_resolveAll fun _ hname => hname]
    rfl

/-! ### Forms -/

theorem unionOf_sign (v : Vocabulary) (raw : Text) (table : SymbolTable)
    (sketches : List Sketch) :
    unionOf v raw (sketches.map table.sign) =
      table.sign (TypeExpr.unionSketch v raw sketches) := by
  have hstripped : (sketches.map table.sign).map (·.stripOptional) =
      (sketches.map (·.stripOptional)).map table.sign := by
    rw [List.map_map, List.map_map]
    exact List.map_congr_left fun s _ => (TypeNode.mapRefs_stripOptional _ s).symm
  have hoptional : ((sketches.map table.sign).any fun a => a.optional || a.name == v.nilName) =
      sketches.any fun a => a.optional || a.name == v.nilName := by
    rw [List.any_map]
    simp only [Function.comp_def, SymbolTable.sign, TypeNode.optional_mapRefs,
      TypeNode.name_mapRefs]
  unfold unionOf TypeExpr.unionSketch
  simp only [SymbolTable.sign_mk, hstripped, hoptional, SymbolTable.mergedRefs_sign]

/-- **A generic type** whose arguments were read: the numbers in them outlast the resolution of
its name. -/
theorem readGeneric_eq (v : Vocabulary) (d : Draft) (raw name : Text) (head : Head)
    (pieces : List Text) (file line : Nat) :
    let readings := pieces.map (TypeExpr.read v)
    let names := Reading.allMentions readings
    (d.settle names (Reading.allIssues readings) file line).readGeneric v raw name
        ((readings.map (·.sketch)).map (d.table.resolveAll names file line).sign) file line head =
      d.carryOut (TypeExpr.genericReading v raw head name readings) file line := by
  intro readings names
  have hparts (more : List Text) :
      (readings.map (·.sketch)).map (d.table.resolveAll names file line).sign =
        (readings.map (·.sketch)).map
          (d.table.resolveAll (names ++ more) file line).sign := by
    refine List.map_congr_left fun sketch hsketch => ?_
    obtain ⟨r, hr, rfl⟩ := List.mem_map.1 hsketch
    obtain ⟨p, -, rfl⟩ := List.mem_map.1 hr
    rw [SymbolTable.resolveAll_append]
    refine (SymbolTable.sign_resolveAll (fun name hname => ?_) more).symm
    exact Reading.mem_allMentions.2 ⟨_, hr, hname⟩
  cases head with
  | named =>
    let own := TypeExpr.readName v name name
    have hissues : own.issues = [] := TypeExpr.issues_readName v name name
    let table := d.table.resolveAll (names ++ own.mentions) file line
    have hbase : (d.settle names (Reading.allIssues readings) file line).readName v name name file
        line = (d.settle (names ++ own.mentions) (Reading.allIssues readings) file line,
          table.sign own.sketch) := by
      rw [readName_eq]
      refine Prod.ext_iff.2 ⟨?_, ?_⟩
      · show (d.settle names _ file line).settle own.mentions own.issues file line = _
        rw [settle_settle, hissues, List.append_nil]
      · exact congrArg (·.sign own.sketch) (SymbolTable.resolveAll_append ..).symm
    rw [readGeneric, hbase, hparts own.mentions]
    refine Prod.ext_iff.2 ⟨rfl, ?_⟩
    show _ = table.sign ⟨raw, own.sketch.kind, name, readings.map (·.sketch),
      Sketch.mergedRefs (own.sketch :: readings.map (·.sketch)), false⟩
    rw [SymbolTable.sign_mk, ← SymbolTable.mergedRefs_sign, List.map_cons]
    simp only [SymbolTable.sign, TypeNode.kind_mapRefs]
    rfl
  | _ =>
    simp only [readGeneric, hparts []]
    refine Prod.ext_iff.2 ⟨?_, ?_⟩
    · show d.settle names _ file line = d.settle (names ++ []) _ file line
      rw [List.append_nil]
      rfl
    · show TypeNode.mk raw _ name _ _ false = SymbolTable.sign _ (TypeNode.mk raw _ name _ _ false)
      rw [SymbolTable.sign_mk, ← SymbolTable.mergedRefs_sign]
      rfl

/-- **A form is read as its pieces are**: if each of them may be carried out at once, so may the
whole. -/
theorem readForm_map {step : Text → Reader} {f : TypeExpr.Form Text}
    (hstep : ∀ p ∈ f.pieces, ∀ d, step p d = d.carryOut (TypeExpr.read v p) file line)
    (d : Draft) :
    d.readForm v t file line (f.map step) =
      d.carryOut (TypeExpr.combine v t (f.map (TypeExpr.read v))) file line := by
  cases f with
  | empty | unclosed | unrecognized => rfl
  | literal => exact Prod.ext_iff.2 ⟨(settle_nil d file line).symm, rfl⟩
  | dotted => exact readName_eq v d t t file line
  | enclosed inner =>
    have hinner := hstep inner (List.mem_singleton_self _) d
    simp only [TypeExpr.Form.map, readForm, hinner]
    exact Prod.ext_iff.2 ⟨rfl, (TypeNode.mapRefs_withRaw ..).symm⟩
  | optional inner =>
    have hinner := hstep inner (List.mem_singleton_self _) d
    simp only [TypeExpr.Form.map, readForm, hinner]
    refine Prod.ext_iff.2 ⟨rfl, ?_⟩
    show _ = SymbolTable.sign _ ((TypeExpr.read v inner).sketch.optionalOf.withRaw t)
    rw [SymbolTable.sign, TypeNode.mapRefs_withRaw, TypeNode.mapRefs_optionalOf]
    rfl
  | array inner =>
    have hinner := hstep inner (List.mem_singleton_self _) d
    simp only [TypeExpr.Form.map, readForm, hinner]
    refine Prod.ext_iff.2 ⟨rfl, ?_⟩
    show _ = SymbolTable.sign _ (TypeNode.mk t .array _ [_] _ false)
    rw [SymbolTable.sign_mk, ← TypeNode.refs_mapRefs]
    rfl
  | function mentioned =>
    have hread : d.readInOrder (mentioned.map step) = _ := readInOrder_map hstep d
    simp only [TypeExpr.Form.map, readForm, hread]
    refine Prod.ext_iff.2 ⟨rfl, ?_⟩
    show _ = SymbolTable.sign _ (TypeNode.mk t .function _ [] _ false)
    rw [SymbolTable.sign_mk, ← SymbolTable.mergedRefs_sign]
    rfl
  | union alternatives =>
    have hread : d.readInOrder (alternatives.map step) = _ := readInOrder_map hstep d
    simp only [TypeExpr.Form.map, readForm, hread]
    exact Prod.ext_iff.2 ⟨rfl, unionOf_sign v t _ _⟩
  | generic head name arguments =>
    have hread : d.readInOrder (arguments.map step) = _ := readInOrder_map hstep d
    simp only [TypeExpr.Form.map, readForm, hread]
    exact readGeneric_eq v d t name head arguments file line
  | malformed head name =>
    cases head with
    | named =>
      simp only [TypeExpr.Form.map, readForm, readName_eq]
      exact carryOut_report d _ _ file line (TypeExpr.issues_readName v t name)
    | _ => rfl

/-- **A type that is read on the way is the type that its text says**, with the numbers of the table
in the end. -/
theorem readTrimmed_eq (v : Vocabulary) (d : Draft) (t : Text) (file line : Nat) :
    d.readTrimmed v t file line = d.carryOut (TypeExpr.read v t) file line := by
  refine TypeExpr.pieces_induction v
    (P := fun t => ∀ d, d.readTrimmed v t file line = d.carryOut (TypeExpr.read v t) file line)
    (fun t ih d => ?_) t d
  rw [readTrimmed, TypeExpr.Form.mapPieces_eq_map, readForm_map ih, TypeExpr.read_eq]

/-- Reading a type is carrying out what its text says. -/
theorem readType_eq_read (v : Vocabulary) (d : Draft) (type : Text) (file line : Nat) :
    d.readType v type file line = d.carryOut (TypeExpr.read v (Text.trim type)) file line :=
  readTrimmed_eq v d (Text.trim type) file line

theorem table_readType (v : Vocabulary) (d : Draft) (type : Text) (file line : Nat) :
    (d.readType v type file line).1.table =
      d.table.resolveAll (TypeExpr.read v (Text.trim type)).mentions file line := by
  rw [readType_eq_read]
  rfl

/-- A type has the numbers of the table that reading it leaves. -/
theorem readType_snd (v : Vocabulary) (d : Draft) (type : Text) (file line : Nat) :
    (d.readType v type file line).2 =
      (d.readType v type file line).1.table.sign (TypeExpr.read v (Text.trim type)).sketch := by
  rw [readType_eq_read]
  rfl

end Draft

end LuaAtlas
