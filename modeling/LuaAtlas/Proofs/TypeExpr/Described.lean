import LuaAtlas.Proofs.TypeExpr.Cutting
import LuaAtlas.Proofs.TypeExpr.RoundTrip

/-!
# Types in front of other text

A written type goes on with blanks inside its brackets and behind the colon in front of a result,
and nowhere else (`visible_render`).  So the scan for the end of a type passes over it
(`cutFrom_render_append`), and since it ends with no joint (`ends_render`), the type is cut out
exactly whenever nothing follows, or blanks and then no joint (`cut?_render_append`).
-/

namespace LuaAtlas

open LuaAtlas.Bracket

namespace TypeExpr

/-! ### Passing over a type -/

variable {p : Char → Prop} {t u : Text} {c : Char}

/-- **The scan passes over a nested text**: at depth zero if no blank stands outside its brackets,
and at any greater depth. -/
theorem cutFrom_append {depth : Int} (h : Nested p t) (hd : 0 ≤ depth)
    (hp : depth = 0 → ∀ c, p c → Text.isBlank c = false) (last : Option Char) (rest : Text) :
    cutFrom depth last (t ++ rest) = t ++ cutFrom depth (Text.lastVisible last t) rest := by
  induction h generalizing depth last rest with
  | nil => rfl
  | @plain p c t ho hc h _ ih =>
    have hstep : step depth c = depth := by simp [step, ho, hc]
    rw [List.cons_append, cutFrom]
    by_cases hblank : Text.isBlank c = true
    · have hdepth : depth ≠ 0 := fun hz => by simp [hp hz c h] at hblank
      have hlast : Text.lastVisible last (c :: t) = Text.lastVisible last t := by
        simp [Text.lastVisible, hblank]
      simp only [hblank, ↓reduceIte, hdepth, decide_false, Bool.false_and, Bool.false_eq_true]
      rw [ih hd hp, hlast, List.cons_append]
    · have hlast : Text.lastVisible last (c :: t) = Text.lastVisible (some c) t := by
        simp [Text.lastVisible, hblank]
      simp only [hblank, Bool.false_eq_true, ↓reduceIte]
      rw [hstep, ih hd hp, hlast, List.cons_append]
  | @group p o c u t ho hc _ _ ihu iht =>
    have hblank (d : Char) (hd : isOpener d = true ∨ isCloser d = true) :
        Text.isBlank d = false := by
      by_contra hb
      obtain ⟨hno, hnc⟩ := isBracket_of_isBlank (by simpa using hb)
      simp [hno, hnc] at hd
    have hopen : Text.isBlank o = false := hblank o (Or.inl ho)
    have hclose : Text.isBlank c = false := hblank c (Or.inr hc)
    have hstepo : step depth o = depth + 1 := by simp [step, ho]
    have hstepc : step (depth + 1) c = depth := by
      simp [step, hc, isOpener_of_isCloser hc]
    have hlast : Text.lastVisible last (o :: (u ++ c :: t)) = Text.lastVisible (some c) t := by
      simp [Text.lastVisible, List.foldl_append, hclose]
    -- inside the brackets the depth is positive, so no blank ends the type there
    rw [List.cons_append, List.append_assoc, List.cons_append, cutFrom]
    simp only [hopen, Bool.false_eq_true, ↓reduceIte]
    rw [hstepo, ihu (by omega) (by omega), cutFrom]
    simp only [hclose, Bool.false_eq_true, ↓reduceIte]
    rw [hstepc, iht hd hp, hlast, List.cons_append, List.append_assoc, List.cons_append]

/-- What ends a type in front of it: nothing, or blanks with no joint behind them. -/
structure Ending (tail : Text) : Prop where
  blank : ∀ c, tail.head? = some c → Text.isBlank c = true
  noJoint : ∀ c, (Text.trimLeft tail).head? = some c → isJoint c = false

theorem Ending.of_isPrefix (h : Ending u) (ht : t <+: u) : Ending t := by
  refine ⟨fun c hc => ?_, fun c hc => ?_⟩
  · apply h.blank
    obtain ⟨v, rfl⟩ := ht
    rw [List.head?_append, hc]
    rfl
  · exact h.noJoint c (Text.head?_trimLeft_of_isPrefix ht hc)

/-- Blanks and a text that starts with no joint, with a blank between if there is such a text. -/
theorem ending_append {gap rest : Text} (hgap : ∀ c ∈ gap, Text.isBlank c = true)
    (hrest : ∀ c, rest.head? = some c → Text.isBlank c = false ∧ isJoint c = false)
    (hne : rest ≠ [] → gap ≠ []) : Ending (gap ++ rest) := by
  constructor
  · intro c hc
    cases gap with
    | nil =>
      have hnil : rest = [] := by
        by_contra h
        exact hne h rfl
      rw [hnil] at hc
      cases hc
    | cons b gap =>
      apply hgap
      rw [List.cons_append, List.head?_cons, Option.some_inj] at hc
      exact hc ▸ List.mem_cons_self ..
  · intro c hc
    rw [Text.trimLeft_append_of_blank hgap,
      Text.trimLeft_eq_self fun d hd => (hrest d hd).1] at hc
    exact (hrest c hc).2

/-- Behind a character that is no joint the type ends there. -/
theorem cutFrom_ending {last : Option Char} (h : Ending t) (hlast : isJoint? last = false) :
    cutFrom 0 last t = [] := by
  cases t with
  | nil => rfl
  | cons b t =>
    have hb := h.blank b rfl
    have hnext : isJoint? (Text.trimLeft t).head? = false := by
      have htrim : Text.trimLeft (b :: t) = Text.trimLeft t := List.dropWhile_cons_of_pos hb
      cases hhead : (Text.trimLeft t).head? with
      | none => rfl
      | some c =>
        rw [← htrim] at hhead
        exact h.noJoint c hhead
    rw [cutFrom]
    simp [hb, hlast, hnext]

end TypeExpr

namespace TypeTree

open TypeExpr

/-! ### What a written type shows to the scan -/

/-- A type whose text shows no blank unless it has a result shows none as a part. -/
theorem visible_renderPart {e : TypeTree} (h : e.WellFormed)
    (hv : e.hasResult = false → Nested (fun c => Text.isBlank c = false) e.render) :
    Nested (fun c => Text.isBlank c = false) e.renderPart := by
  rw [renderPart, enclose]
  split
  · exact Nested.between rfl rfl (written_render h).nested
  · rename_i hl
    exact hv (hasResult_of_isLoose (by simpa using hl))

/-- **A type without a result shows no blank outside its brackets.** -/
theorem visible_render {e : TypeTree} (h : e.WellFormed) (hr : e.hasResult = false) :
    Nested (fun c => Text.isBlank c = false) e.render := by
  induction h with
  | prim h =>
    exact Name.nested_of_isDotted (isDotted_of_mem_primitives h).1
      fun _ => Name.isBlank_of_isDottedChar
  | ref hd => exact Name.nested_of_isDotted hd fun _ => Name.isBlank_of_isDottedChar
  | array h ih => exact (visible_renderPart h ih).append (.group rfl rfl .nil .nil)
  | optional h ih => exact (visible_renderPart h ih).append (.plain rfl rfl (by decide) .nil)
  | @generic name arguments hd _ _ _ _ _ h =>
    have hname : Nested (fun c => Text.isBlank c = false) name :=
      Name.nested_of_isDotted hd fun _ => Name.isBlank_of_isDottedChar
    have hargs : Nested (fun _ => True) (Text.join [',', ' '] (renderAll arguments)) := by
      rw [renderAll_eq_map]
      refine nested_arguments (q := fun _ => True) fun t ht => ?_
      obtain ⟨e, he, rfl⟩ := List.mem_map.1 ht
      exact (written_render (h e he)).nested.mono fun _ _ => trivial
    exact hname.append (Nested.between rfl rfl hargs)
  | union _ h ih =>
    rw [render, renderAlternatives_eq_map]
    refine Nested.join (.plain rfl rfl (by decide) .nil) fun t ht => ?_
    obtain ⟨e, he, rfl⟩ := List.mem_map.1 ht
    exact visible_renderPart (h e he) (ih e he)
  | @function params result hn h =>
    cases result with
    | some r => cases hr
    | none =>
      have hparams := nested_renderParams hn fun p hp => written_render (h p hp)
      have hname : Nested (fun c => Text.isBlank c = false) ['f', 'u', 'n'] :=
        Name.nested_of_isDotted (by decide) fun _ => Name.isBlank_of_isDottedChar
      exact hname.append (Nested.between rfl rfl hparams)

/-- A text that ends with a visible character other than a joint. -/
def Ends (t : Text) : Prop := ∃ c, t.getLast? = some c ∧ Text.isBlank c = false ∧ isJoint c = false

theorem Ends.append {u : Text} (h : Ends u) (t : Text) : Ends (t ++ u) := by
  obtain ⟨c, hc, hends⟩ := h
  refine ⟨c, ?_, hends⟩
  rw [List.getLast?_append, hc]
  rfl

theorem ends_between {c : Char} (hb : Text.isBlank c = false) (hj : isJoint c = false) (o : Char)
    (t : Text) : Ends (o :: (t ++ [c])) :=
  Ends.append ⟨c, rfl, hb, hj⟩ (o :: t)

theorem Ends.enclose {t : Text} (h : Ends t) (needed : Bool) : Ends (enclose needed t) := by
  cases needed with
  | false => exact h
  | true => exact ends_between (by decide) (by decide) '(' t

theorem ends_join {sep : Text} {ts : List Text} (hne : ts ≠ []) (h : ∀ t ∈ ts, Ends t) :
    Ends (Text.join sep ts) := by
  induction ts with
  | nil => exact absurd rfl hne
  | cons t ts ih =>
    cases ts with
    | nil => exact h t (List.mem_singleton_self t)
    | cons u us =>
      have htail := ih (List.cons_ne_nil u us) fun w hw => h w (List.mem_cons_of_mem t hw)
      exact htail.append (t ++ sep)

theorem ends_of_isDotted {name : Text} (h : Name.isDotted name = true) : Ends name := by
  obtain ⟨d, ds, rfl, -⟩ := Name.exists_cons_of_isDotted h
  have hlast : (d :: ds).getLast? = some ((d :: ds).getLast (List.cons_ne_nil d ds)) :=
    List.getLast?_eq_some_getLast _
  have hrest := Name.isRest_of_getLast? h _ hlast
  have hne (j : Char) (hj : Name.isRest j = false) :
      ((d :: ds).getLast (List.cons_ne_nil d ds) == j) = false :=
    beq_eq_false_iff_ne.2 (Name.ne_of_isRest hrest hj)
  refine ⟨_, hlast, Name.isBlank_of_isRest hrest, ?_⟩
  rw [isJoint, hne '|' (by decide), hne ',' (by decide), hne ':' (by decide)]
  rfl

/-- **A written type ends with no joint.** -/
theorem ends_render {e : TypeTree} (h : e.WellFormed) : Ends e.render := by
  induction h with
  | prim h => exact ends_of_isDotted (isDotted_of_mem_primitives h).1
  | ref hd => exact ends_of_isDotted hd
  | array => exact Ends.append ⟨']', rfl, by decide, by decide⟩ _
  | optional => exact Ends.append ⟨'?', rfl, by decide, by decide⟩ _
  | generic => exact (ends_between (by decide) (by decide) '<' _).append _
  | @union alternatives hlen _ ih =>
    rw [render, renderAlternatives_eq_map]
    refine ends_join ?_ fun t ht => ?_
    · rw [ne_eq, List.map_eq_nil_iff]
      rintro rfl
      exact absurd hlen (by decide)
    · obtain ⟨e, he, rfl⟩ := List.mem_map.1 ht
      exact (ih e he).enclose _
  | @function params result _ _ _ _ ihr =>
    cases result with
    | none => exact (ends_between (by decide) (by decide) '(' _).append ['f', 'u', 'n']
    | some r =>
      have hresult := (ihr r rfl).enclose r.hasResult
      have hparams := (hresult.append [')', ':', ' ']).append
        (Text.join [',', ' '] (renderParams params))
      exact hparams.append ['f', 'u', 'n', '(']

/-! ### Cutting a type out -/

theorem lastVisible_of_ends {t : Text} (h : Ends t) (last : Option Char) :
    isJoint? (Text.lastVisible last t) = false := by
  obtain ⟨c, hc, hb, hj⟩ := h
  have htrim : Text.trimRight t = t := by
    refine Text.trimRight_eq_self fun d hd => ?_
    rw [hc, Option.some_inj] at hd
    exact hd ▸ hb
  rw [Text.lastVisible_eq, htrim, hc]
  exact hj

/-- The scan passes over a text that shows no blanks. -/
theorem cutFrom_visible_append {t : Text} (h : Nested (fun c => Text.isBlank c = false) t)
    (last : Option Char) (rest : Text) :
    cutFrom 0 last (t ++ rest) = t ++ cutFrom 0 (Text.lastVisible last t) rest :=
  cutFrom_append h (Int.le_refl 0) (fun _ _ hc => hc) last rest

/-- The blank in front of a result has the colon next to it, so it does not end the type. -/
theorem cutFrom_result_append {params w : Text} (hparams : Nested p params)
    (hw : Nested (fun c => Text.isBlank c = false) w) (last : Option Char) (rest : Text) :
    cutFrom 0 last ('f' :: 'u' :: 'n' :: '(' :: (params ++ ')' :: ':' :: ' ' :: w) ++ rest) =
      'f' :: 'u' :: 'n' :: '(' :: (params ++ ')' :: ':' :: ' ' :: w) ++
        cutFrom 0 (Text.lastVisible (some ':') w) rest := by
  have hname : Nested (fun c => Text.isBlank c = false) ['f', 'u', 'n'] :=
    Name.nested_of_isDotted (by decide) fun _ => Name.isBlank_of_isDottedChar
  have hfront : Nested (fun c => Text.isBlank c = false)
      (['f', 'u', 'n'] ++ '(' :: (params ++ [')', ':'])) :=
    hname.append (.group rfl rfl (hparams.mono fun _ _ => trivial)
      (.plain rfl rfl (by decide) .nil))
  have hlast : Text.lastVisible last (['f', 'u', 'n'] ++ '(' :: (params ++ [')', ':'])) =
      some ':' := by
    simp [Text.lastVisible, show Text.isBlank ':' = false by decide]
  have hblank : cutFrom 0 (some ':') (' ' :: (w ++ rest)) =
      ' ' :: (w ++ cutFrom 0 (Text.lastVisible (some ':') w) rest) := by
    rw [cutFrom, cutFrom_visible_append hw]
    rfl
  have hscan := cutFrom_visible_append hfront last (' ' :: (w ++ rest))
  rw [hlast, hblank] at hscan
  simpa using hscan

/-- **The scan for the end of a type passes over a written type**, behind which there is no
joint. -/
theorem cutFrom_render_append {e : TypeTree} (h : e.WellFormed) (last : Option Char)
    (rest : Text) :
    ∃ c, isJoint? c = false ∧
      cutFrom 0 last (e.render ++ rest) = e.render ++ cutFrom 0 c rest := by
  cases hr : e.hasResult with
  | false =>
    exact ⟨_, lastVisible_of_ends (ends_render h) last,
      cutFrom_visible_append (visible_render h hr) last rest⟩
  | true =>
    match e, h with
    | function params (some r), .function hn hp hres =>
      have hr := hres r rfl
      have hparams := nested_renderParams hn fun p hp' => written_render (hp p hp')
      have hw : Nested (fun c => Text.isBlank c = false) (enclose r.hasResult r.render) := by
        cases hrr : r.hasResult with
        | false => exact visible_render hr hrr
        | true => exact Nested.between rfl rfl (written_render hr).nested
      exact ⟨_, lastVisible_of_ends ((ends_render hr).enclose _) _,
        cutFrom_result_append hparams hw last rest⟩

/-- What is left of a written type with blanks in front and an ending behind it. -/
theorem trim_render_append {e : TypeTree} (h : e.WellFormed) {front tail : Text}
    (hfront : ∀ c ∈ front, Text.isBlank c = true) :
    Text.trim (front ++ (e.render ++ tail)) = e.render ++ Text.trimRight tail := by
  have hstart : Text.trimLeft (e.render ++ tail) = e.render ++ tail := by
    refine Text.trimLeft_eq_self fun d hd => ?_
    rw [List.head?_append_of_ne_nil _ (written_render h).ne_nil] at hd
    exact (written_render h).trimmed.1 d hd
  rw [Text.trim, Text.trimLeft_append_of_blank hfront, hstart]
  refine Text.dropTrailing_append (fun d hd => ?_) tail
  exact (written_render h).trimmed.2 d hd

/-- **A type is cut out exactly**, wherever nothing or blanks without a joint behind them end it. -/
theorem cut?_render_append {e : TypeTree} (h : e.WellFormed) {front tail : Text}
    (hfront : ∀ c ∈ front, Text.isBlank c = true) (htail : Ending tail) :
    cut? (front ++ (e.render ++ tail)) = some e.render := by
  have hend : Ending (Text.trimRight tail) := htail.of_isPrefix (Text.dropTrailing_isPrefix _ _)
  obtain ⟨c, hc, hscan⟩ := cutFrom_render_append h none (Text.trimRight tail)
  rw [cutFrom_ending hend hc, List.append_nil] at hscan
  obtain ⟨d, ds, hcons, -⟩ := (written_render h).starts_append (Text.trimRight tail)
  rw [cut?, trim_render_append h hfront]
  rw [hcons] at hscan ⊢
  exact congrArg some hscan

end TypeTree

end LuaAtlas
