import LuaAtlas.Proofs.Draft.Typing
import LuaAtlas.Proofs.Text.Naming
import LuaAtlas.Proofs.TypeExpr.Tree

/-!
# Reading back what was written

The main statement is `readType_render`: whatever was declared before, reading a written type tree
reports nothing and gives the meaning of the tree.

* `written_render` says what a written type looks like from outside: how it starts, that it has no
  blank at its ends, that its brackets are nested, and which of the marks `,`, `:` and `|` may stand
  outside its brackets.
* `enclosed?_render_append` and `noResult_render_append` say that the two forms which are tried
  first are not found by mistake, whatever suffix follows.
* `form_array`, `form_generic`, `form_union` and the others give the outermost form of every written
  type, `reads_array`, `reads_generic`, `reads_union` and the others what it is read as, and
  `read_render` follows by induction over the tree.
-/

namespace LuaAtlas

open LuaAtlas.Bracket

/-! ### Joined texts -/

theorem Text.isTrimmed_join {sep t : Text} {ts : List Text}
    (h : ∀ u ∈ t :: ts, u.IsTrimmed ∧ u ≠ []) : (Text.join sep (t :: ts)).IsTrimmed := by
  induction ts generalizing t with
  | nil => exact (h t (List.mem_cons_self ..)).1
  | cons u us ih =>
    obtain ⟨htt, htn⟩ := h t (List.mem_cons_self ..)
    have htail := ih fun w hw => h w (List.mem_cons_of_mem _ hw)
    have hne : Text.join sep (u :: us) ≠ [] := by
      have hu := (h u (by simp)).2
      cases us <;> simp [Text.join, hu]
    rw [Text.join, List.append_assoc]
    exact htt.append_append htail htn hne

namespace TypeTree

/-! ### What a written type looks like -/

/-- A written type from outside: it starts with a name or a parenthesis, has no blank at its ends,
and is nested with only characters that satisfy `p` outside its brackets. -/
structure Written (p : Char → Prop) (t : Text) : Prop where
  starts : ∃ c cs, t = c :: cs ∧ (Name.isStart c = true ∨ c = '(')
  trimmed : t.IsTrimmed
  nested : Nested p t

variable {p q : Char → Prop} {t : Text}

theorem Written.ne_nil (h : Written p t) : t ≠ [] := by
  obtain ⟨c, cs, rfl, -⟩ := h.starts
  exact List.cons_ne_nil c cs

theorem Written.starts_append (h : Written p t) (u : Text) :
    ∃ c cs, t ++ u = c :: cs ∧ (Name.isStart c = true ∨ c = '(') := by
  obtain ⟨c, cs, rfl, hc⟩ := h.starts
  exact ⟨c, cs ++ u, rfl, hc⟩

theorem Written.mono (h : Written p t) (hpq : ∀ c, p c → q c) : Written q t :=
  ⟨h.starts, h.trimmed, h.nested.mono hpq⟩

/-- Parentheses hide what stands inside. -/
theorem Written.enclose {needed : Bool} (h : Written p t)
    (hpq : needed = false → ∀ c, p c → q c) : Written q (enclose needed t) := by
  cases needed with
  | false => exact h.mono (hpq rfl)
  | true =>
    exact ⟨⟨'(', _, rfl, Or.inr rfl⟩, Text.isTrimmed_between rfl rfl t,
      Nested.between rfl rfl h.nested⟩

/-- A nested suffix that is trimmed goes behind a written type. -/
theorem Written.append {u : Text} (h : Written p t) (hu : Nested p u) (hut : u.IsTrimmed) :
    Written p (t ++ u) :=
  ⟨h.starts_append u, h.trimmed.append hut, h.nested.append hu⟩

theorem written_of_isDotted {name : Text} (h : Name.isDotted name = true)
    (hp : ∀ c, Name.IsDottedChar c → p c) : Written p name := by
  obtain ⟨c, cs, hcs, hc⟩ := Name.exists_cons_of_isDotted h
  exact ⟨⟨c, cs, hcs, Or.inl hc⟩, Name.isTrimmed_of_isDotted h, Name.nested_of_isDotted h hp⟩

/-- The characters that may stand outside the brackets of a written type: no comma, a colon only in
front of a result, and a bar only in a union or a result. -/
def MayStand (e : TypeTree) (c : Char) : Prop :=
  c ≠ ',' ∧ (c = ':' → e.hasResult = true) ∧ (c = '|' → e.isLoose = true)

/-- The characters that may stand outside the brackets of a part. -/
def MayStandInPart (c : Char) : Prop := c ≠ ',' ∧ c ≠ ':' ∧ c ≠ '|'

theorem mayStand_of_mayStandInPart {e : TypeTree} {c : Char} (h : MayStandInPart c) :
    e.MayStand c :=
  ⟨h.1, fun hc => absurd hc h.2.1, fun hc => absurd hc h.2.2⟩

theorem mayStandInPart_of_isDottedChar {c : Char} (h : Name.IsDottedChar c) : MayStandInPart c :=
  ⟨Name.ne_of_isDottedChar h (by decide) (by decide),
    Name.ne_of_isDottedChar h (by decide) (by decide),
    Name.ne_of_isDottedChar h (by decide) (by decide)⟩

/-- A type that needs no parentheses under a suffix has no result. -/
theorem hasResult_of_isLoose {e : TypeTree} (h : e.isLoose = false) : e.hasResult = false := by
  cases e with
  | union => cases h
  | _ => exact h

theorem Written.part {e : TypeTree} (h : Written e.MayStand e.render) :
    Written MayStandInPart e.renderPart := by
  refine h.enclose fun hl c hc => ⟨hc.1, fun hcolon => ?_, fun hbar => ?_⟩
  · have := hc.2.1 hcolon
    rw [hasResult_of_isLoose hl] at this
    cases this
  · have := hc.2.2 hbar
    rw [hl] at this
    cases this

/-- The primitive names are dotted names and no truth values. -/
theorem isDotted_of_mem_primitives {name : Text} (h : name ∈ Vocabulary.standard.primitives) :
    Name.isDotted name = true ∧ Literal.isTruth name = false := by
  have hall : ∀ n ∈ Vocabulary.standard.primitives,
      Name.isDotted n = true ∧ Literal.isTruth n = false := by decide
  exact hall name h

theorem nested_arguments {ts : List Text} (h : ∀ t ∈ ts, Nested q t) :
    Nested (fun _ => True) (Text.join [',', ' '] ts) :=
  Nested.join (.plain rfl rfl trivial (.plain rfl rfl trivial .nil))
    fun t ht => (h t ht).mono fun _ _ => trivial

/-- The parameter list of a written function type is nested. -/
theorem nested_renderParams {params : List (Text × TypeTree)}
    (hn : ∀ p ∈ params, Name.isName p.1 = true)
    (h : ∀ p ∈ params, Written p.2.MayStand p.2.render) :
    Nested (fun _ => True) (Text.join [',', ' '] (renderParams params)) := by
  rw [renderParams_eq_map]
  refine nested_arguments (q := fun _ => True) fun t ht => ?_
  obtain ⟨p, hp, rfl⟩ := List.mem_map.1 ht
  have hname : Nested (fun _ => True) p.1 :=
    Name.nested_of_isDotted (Name.isDotted_of_isName (hn p hp)) fun _ _ => trivial
  have htype := (h p hp).nested.mono (q := fun _ => True) fun _ _ => trivial
  exact hname.append (.plain rfl rfl trivial (.plain rfl rfl trivial htype))

/-- Alternatives stand between bars, which may stand in a union. -/
theorem written_union {alternatives : List TypeTree} (hlen : 2 ≤ alternatives.length)
    (h : ∀ e ∈ alternatives, Written e.MayStand e.render) :
    Written (union alternatives).MayStand (union alternatives).render := by
  have hparts : ∀ t ∈ renderAlternatives alternatives, Written MayStandInPart t := by
    rw [renderAlternatives_eq_map]
    intro t ht
    obtain ⟨e, he, rfl⟩ := List.mem_map.1 ht
    exact (h e he).part
  have hall : ∀ t ∈ renderAlternatives alternatives, t.IsTrimmed ∧ t ≠ [] :=
    fun t ht => ⟨(hparts t ht).trimmed, (hparts t ht).ne_nil⟩
  have hnested : Nested (MayStand (union alternatives)) (render (union alternatives)) :=
    Nested.join (.plain rfl rfl ⟨by decide, fun hc => absurd hc (by decide), fun _ => rfl⟩ .nil)
      fun t ht => (hparts t ht).nested.mono fun _ => mayStand_of_mayStandInPart
  rw [render] at hnested ⊢
  -- the union starts as its first alternative does
  match hts : renderAlternatives alternatives with
  | [] =>
    have hnone := congrArg List.length hts
    rw [renderAlternatives_eq_map, List.length_map, List.length_nil] at hnone
    omega
  | t :: ts =>
    rw [hts] at hparts hall hnested
    refine ⟨?_, Text.isTrimmed_join hall, hnested⟩
    have hfirst := hparts t (List.mem_cons_self ..)
    cases ts with
    | nil => exact hfirst.starts
    | cons u us =>
      rw [Text.join, List.append_assoc]
      exact hfirst.starts_append _

/-- A function type starts with a name; its parameters stand in parentheses. -/
theorem written_function {params : List (Text × TypeTree)} {result : Option TypeTree}
    (hn : ∀ p ∈ params, Name.isName p.1 = true)
    (h : ∀ p ∈ params, Written p.2.MayStand p.2.render)
    (hr : ∀ e, result = some e → Written e.MayStand e.render) :
    Written (function params result).MayStand (function params result).render := by
  have hparams := nested_renderParams hn h
  have hopening : Written (MayStand (function params result)) ['f', 'u', 'n'] :=
    written_of_isDotted (by decide)
      fun c hc => mayStand_of_mayStandInPart (mayStandInPart_of_isDottedChar hc)
  cases result with
  | none =>
    exact hopening.append (Nested.between rfl rfl hparams) (Text.isTrimmed_between rfl rfl _)
  | some r =>
    -- behind a parameter list every mark but the comma may stand
    have hr : Written (MayStand (function params (some r))) (enclose r.hasResult r.render) :=
      (hr r rfl).enclose fun _ c hc => ⟨hc.1, fun _ => rfl, fun _ => rfl⟩
    have hresult : Nested (MayStand (function params (some r)))
        (':' :: ' ' :: enclose r.hasResult r.render) :=
      .plain rfl rfl ⟨by decide, fun _ => rfl, fun _ => rfl⟩
        (.plain rfl rfl ⟨by decide, fun _ => rfl, fun _ => rfl⟩ hr.nested)
    refine hopening.append (.group rfl rfl hparams hresult) ?_
    have hends := (Text.isTrimmed_singleton (c := '(') rfl).append_append
      (m := Text.join [',', ' '] (renderParams params) ++ [')', ':', ' ']) hr.trimmed
      (List.cons_ne_nil _ _) hr.ne_nil
    rwa [List.append_assoc] at hends

/-- **What a written type looks like from outside.** -/
theorem written_render {e : TypeTree} (h : e.WellFormed) : Written e.MayStand e.render := by
  induction h with
  | prim h =>
    exact written_of_isDotted (isDotted_of_mem_primitives h).1
      fun c hc => mayStand_of_mayStandInPart (mayStandInPart_of_isDottedChar hc)
  | ref hd =>
    exact written_of_isDotted hd
      fun c hc => mayStand_of_mayStandInPart (mayStandInPart_of_isDottedChar hc)
  | array _ ih =>
    exact (ih.part.mono fun _ => mayStand_of_mayStandInPart).append
      (.group rfl rfl .nil .nil) (Text.isTrimmed_between rfl rfl [])
  | optional _ ih =>
    exact (ih.part.mono fun _ => mayStand_of_mayStandInPart).append
      (.plain rfl rfl (mayStand_of_mayStandInPart ⟨by decide, by decide, by decide⟩) .nil)
      (Text.isTrimmed_singleton rfl)
  | @generic name arguments hd _ _ _ _ _ _ ih =>
    have hname : Written (MayStand (generic name arguments)) name := written_of_isDotted hd
      fun c hc => mayStand_of_mayStandInPart (mayStandInPart_of_isDottedChar hc)
    have hargs : Nested (fun _ => True) (Text.join [',', ' '] (renderAll arguments)) := by
      rw [renderAll_eq_map]
      refine nested_arguments (q := fun _ => True) fun t ht => ?_
      obtain ⟨e, he, rfl⟩ := List.mem_map.1 ht
      exact (ih e he).nested.mono fun _ _ => trivial
    exact hname.append (Nested.between rfl rfl hargs) (Text.isTrimmed_between rfl rfl _)
  | union hlen _ ih => exact written_union hlen ih
  | function hn _ _ ih ihr => exact written_function hn ih ihr

/-! ### Forms that are not found by mistake -/

open TypeExpr

theorem enclosed?_of_ne {c : Char} (hc : c ≠ '(') (cs : Text) : enclosed? (c :: cs) = none := by
  rw [enclosed?]
  rintro _ ⟨⟩
  exact hc rfl

theorem enclosed?_of_isDotted {name : Text} (h : Name.isDotted name = true) (s : Text) :
    enclosed? (name ++ s) = none := by
  obtain ⟨c, cs, rfl, hc⟩ := Name.exists_cons_of_isDotted h
  exact enclosed?_of_ne (Name.ne_of_isRest (Name.isRest_of_isStart hc) (by decide)) _

/-- Parentheses that close before the end enclose no type. -/
theorem enclosed?_between_append {t s : Text} (h : Nested p t) (hs : s ≠ []) :
    enclosed? ('(' :: (t ++ ')' :: s)) = none := by
  rw [enclosed?, splitClosing_nested h rfl]
  cases s with
  | nil => exact absurd rfl hs
  | cons c cs => rfl

theorem enclosed?_renderPart_append {e : TypeTree} (h : Nested p e.render)
    (ih : ∀ s, enclosed? (e.render ++ s) = none) {s : Text} (hs : s ≠ []) :
    enclosed? (e.renderPart ++ s) = none := by
  rw [renderPart, enclose]
  split
  · rw [List.cons_append, List.append_assoc]
    exact enclosed?_between_append h hs
  · exact ih s

/-- **A written type is not taken for one in parentheses**, whatever follows it. -/
theorem enclosed?_render_append {e : TypeTree} (h : e.WellFormed) (s : Text) :
    enclosed? (e.render ++ s) = none := by
  induction h generalizing s with
  | prim h => exact enclosed?_of_isDotted (isDotted_of_mem_primitives h).1 s
  | ref hd => exact enclosed?_of_isDotted hd s
  | @array inner h ih =>
    rw [render, List.append_assoc]
    exact enclosed?_renderPart_append (written_render h).nested ih (by simp)
  | @optional inner h ih =>
    rw [render, List.append_assoc]
    exact enclosed?_renderPart_append (written_render h).nested ih (by simp)
  | generic hd =>
    rw [render, List.append_assoc]
    exact enclosed?_of_isDotted hd _
  | @union alternatives hlen h ih =>
    match alternatives, hlen with
    | e :: f :: es, _ =>
      rw [render, renderAlternatives, renderAlternatives, Text.join, List.append_assoc,
        List.append_assoc]
      have he : e ∈ e :: f :: es := List.mem_cons_self ..
      exact enclosed?_renderPart_append (written_render (h e he)).nested (ih e he) (by simp)
  | @function params result =>
    cases result <;> exact enclosed?_of_ne (by decide) _

/-- What may follow a part of a written type: nothing, a suffix or a bar. -/
def Follows (s : Text) : Prop := ∀ c, s.head? = some c → c = '[' ∨ c = '?' ∨ c = '|'

theorem not_isDottedChar {c : Char} (hc : Name.isRest c = false) (hdot : c ≠ '.') :
    ¬ Name.IsDottedChar c :=
  fun h => Name.ne_of_isDottedChar h hc hdot rfl

/-- A name is not taken for the opening of a function type. -/
theorem opened?_of_isDotted {name s : Text} (h : Name.isDotted name = true)
    (hs : ∀ c, s.head? = some c → ¬ Name.IsDottedChar c ∧ c ≠ '(') :
    opened? .standard (name ++ s) = none := by
  cases ho : opened? .standard (name ++ s) with
  | none => rfl
  | some body =>
    -- the opening is the name `fun` in front of a parenthesis, so two names would be read
    have hbegin : name ++ s = ['f', 'u', 'n', '('] ++ body := Text.after?_eq_some_iff.1 ho
    have heq : name ++ s = ['f', 'u', 'n'] ++ '(' :: body := hbegin
    have h₁ := Name.readDotted?_append_of_isDotted h fun c hc => (hs c hc).1
    have h₂ : Name.readDotted? (['f', 'u', 'n'] ++ '(' :: body) =
        some (['f', 'u', 'n'], '(' :: body) := by
      apply Name.readDotted?_append_of_isDotted (by decide)
      rintro c ⟨⟩
      exact not_isDottedChar (by decide) (by decide)
    rw [heq, h₂] at h₁
    cases h₁
    exact absurd rfl (hs '(' rfl).2

theorem not_isDottedChar_of_follows {s : Text} (h : Follows s) :
    ∀ c, s.head? = some c → ¬ Name.IsDottedChar c ∧ c ≠ '(' := by
  intro c hc
  have key : ∀ d ∈ ['[', '?', '|'], ¬ Name.IsDottedChar d ∧ d ≠ '(' := by
    simp only [List.forall_mem_cons]
    unfold Name.IsDottedChar
    exact ⟨by decide, by decide, by decide, nofun⟩
  exact key c (by simpa using h c hc)

/-- The function type at the front of a text is closed, and what follows its parameters is no
result. -/
def NoResult (t : Text) : Prop :=
  ∀ params rest, (opened? .standard t).bind (closed? .standard t) = some (params, rest) →
    TypeExpr.hasResult rest = false

theorem noResult_of_opened? {t : Text} (h : opened? .standard t = none) : NoResult t := by
  intro params rest he
  rw [h] at he
  cases he

theorem noResult_renderPart_append {e : TypeTree} {s : Text}
    (ih : e.hasResult = false → NoResult (e.render ++ s)) : NoResult (e.renderPart ++ s) := by
  rw [renderPart, enclose]
  split
  · exact noResult_of_opened? rfl
  · rename_i hl
    exact ih (hasResult_of_isLoose (by simpa using hl))

/-- **A written type without a result is not taken for one with a result**, whatever suffix or
further alternatives follow it. -/
theorem noResult_render_append {e : TypeTree} (h : e.WellFormed) (hr : e.hasResult = false)
    {s : Text} (hs : Follows s) : NoResult (e.render ++ s) := by
  induction h generalizing s with
  | prim h =>
    exact noResult_of_opened? (opened?_of_isDotted (isDotted_of_mem_primitives h).1
      (not_isDottedChar_of_follows hs))
  | ref hd => exact noResult_of_opened? (opened?_of_isDotted hd (not_isDottedChar_of_follows hs))
  | @array inner h ih =>
    rw [render, List.append_assoc]
    exact noResult_renderPart_append fun hi => ih hi fun c hc => Or.inl (Option.some.inj hc).symm
  | @optional inner h ih =>
    rw [render, List.append_assoc]
    exact noResult_renderPart_append fun hi =>
      ih hi fun c hc => Or.inr (Or.inl (Option.some.inj hc).symm)
  | generic hd =>
    rw [render, List.append_assoc]
    refine noResult_of_opened? (opened?_of_isDotted hd ?_)
    rintro c ⟨⟩
    exact ⟨not_isDottedChar (by decide) (by decide), by decide⟩
  | @union alternatives hlen h ih =>
    match alternatives, hlen with
    | e :: f :: es, _ =>
      rw [render, renderAlternatives, renderAlternatives, Text.join, List.append_assoc,
        List.append_assoc]
      exact noResult_renderPart_append fun he => ih e (List.mem_cons_self ..) he
        fun c hc => Or.inr (Or.inr (Option.some.inj hc).symm)
  | @function params result hn h hw =>
    cases result with
    | some r => cases hr
    | none =>
      -- the parameter list closes where it was written to close
      intro list rest he
      have hlist := nested_renderParams hn fun p hp => written_render (h p hp)
      have hbody : (opened? .standard (render (function params none) ++ s)).bind
          (closed? .standard (render (function params none) ++ s)) =
            splitClosing 1 (Text.join [',', ' '] (renderParams params) ++ ')' :: s) := by
        rw [render]
        simp only [List.cons_append, List.append_assoc]
        rfl
      rw [hbody, splitClosing_nested hlist rfl] at he
      cases he
      -- what may follow a part starts with neither a blank nor a colon
      cases s with
      | nil => rfl
      | cons c s =>
        rcases hs c rfl with rfl | rfl | rfl <;> rfl

/-! ### The forms of written types -/

theorem follows_nil : Follows [] := nofun

/-- A written type without a result is a union or one of the forms behind it. -/
theorem form_of_hasResult {e : TypeTree} (h : e.WellFormed) (hr : e.hasResult = false) :
    form .standard e.render = unionForm .standard e.render := by
  have henclosed := enclosed?_render_append h []
  have hno := noResult_render_append h hr follows_nil
  rw [List.append_nil] at henclosed hno
  rw [form, ite_cond_eq_false _ _ (eq_false (written_render h).ne_nil)]
  simp only [henclosed]
  split
  · rename_i params rest hb
    rw [hno params rest hb]
    rfl
  · rfl

/-- A written type that needs no parentheses is one of the forms behind unions. -/
theorem form_of_isLoose {e : TypeTree} (h : e.WellFormed) (hl : e.isLoose = false) :
    form .standard e.render = suffixForm .standard e.render := by
  have hbar : splitTop '|' e.render = [e.render] := by
    refine splitTop_eq_singleton ((written_render h).nested.mono ?_)
    rintro c hc rfl
    have := hc.2.2 rfl
    rw [hl] at this
    cases this
  rw [form_of_hasResult h (hasResult_of_isLoose hl), unionForm, hbar]

theorem suffixForm_array (v : Vocabulary) (t : Text) :
    suffixForm v (t ++ ['[', ']']) = .array (Text.trim t) := by
  rw [suffixForm, List.reverse_append]
  simp

theorem suffixForm_optional (v : Vocabulary) (t : Text) :
    suffixForm v (t ++ ['?']) = .optional (Text.trim t) := by
  rw [suffixForm, List.reverse_append]
  simp

/-- Behind the suffixes come function types and the forms without brackets of their own. -/
theorem suffixForm_of_getLast? {v : Vocabulary} {t : Text}
    (h : ∀ c, t.getLast? = some c → c ≠ '?' ∧ c ≠ ']') :
    suffixForm v t =
      match opened? v t with
      | some body =>
        match closed? v t body with
        | some (params, rest) => .function (paramTypes params ++ resultTypes rest)
        | none => .unclosed
      | none => plainForm v t := by
  rw [← List.head?_reverse] at h
  unfold suffixForm
  split
  · rename_i front hr
    rw [hr] at h
    exact absurd rfl (h '?' rfl).1
  · rename_i front hr
    rw [hr] at h
    exact absurd rfl (h ']' rfl).2
  · rfl

/-- A name that is no truth value is read as a name. -/
theorem suffixForm_of_isDotted {name : Text} (hd : Name.isDotted name = true)
    (ht : Literal.isTruth name = false) : suffixForm .standard name = .dotted := by
  have hlast : ∀ c, name.getLast? = some c → c ≠ '?' ∧ c ≠ ']' := fun c hc =>
    ⟨Name.ne_of_isRest (Name.isRest_of_getLast? hd c hc) (by decide),
      Name.ne_of_isRest (Name.isRest_of_getLast? hd c hc) (by decide)⟩
  have hopened : opened? .standard (name ++ []) = none := opened?_of_isDotted hd nofun
  have hread : Name.readDotted? (name ++ []) = some (name, []) :=
    Name.readDotted?_append_of_isDotted hd nofun
  rw [List.append_nil] at hopened hread
  have hhead : genericHead? name = none := by
    rw [genericHead?, hread]
    rfl
  rw [suffixForm_of_getLast? hlast, hopened, plainForm, hhead]
  simp only [Name.isLiteral_of_isDotted hd ht, hd, Bool.false_eq_true, ↓reduceIte]

/-- A part of a written type is its own trimmed form. -/
theorem trim_renderPart {e : TypeTree} (h : e.WellFormed) :
    Text.trim e.renderPart = e.renderPart :=
  Text.trim_eq_self (written_render h).part.trimmed

theorem form_array {inner : TypeTree} (h : inner.WellFormed) :
    form .standard (array inner).render = .array inner.renderPart := by
  rw [form_of_isLoose (.array h) rfl, render, ← renderPart, suffixForm_array, trim_renderPart h]

theorem form_optional {inner : TypeTree} (h : inner.WellFormed) :
    form .standard (optional inner).render = .optional inner.renderPart := by
  rw [form_of_isLoose (.optional h) rfl, render, ← renderPart, suffixForm_optional,
    trim_renderPart h]

/-- A written type in parentheses. -/
theorem form_enclose {t : Text} (h : Written p t) :
    form .standard (enclose true t) = .enclosed t := by
  have hinner : enclosed? ('(' :: (t ++ [')'])) = some t := by
    rw [enclosed?, splitClosing_nested h.nested rfl]
  show form .standard ('(' :: (t ++ [')'])) = _
  rw [form, ite_cond_eq_false _ _ (eq_false (List.cons_ne_nil _ _))]
  simp only [hinner, Text.trim_eq_self h.trimmed]

theorem form_union {alternatives : List TypeTree} (hw : (union alternatives).WellFormed) :
    form .standard (union alternatives).render = .union (alternatives.map renderPart) := by
  cases hw with
  | union hlen h =>
  match alternatives, hlen with
  | e :: f :: es, _ =>
    have hparts : ∀ t ∈ (e :: f :: es).map renderPart, Written MayStandInPart t := by
      intro t ht
      obtain ⟨g, hg, rfl⟩ := List.mem_map.1 ht
      exact (written_render (h g hg)).part
    have hbar : ∀ t ∈ (e :: f :: es).map renderPart, Nested (· ≠ '|') t :=
      fun t ht => (hparts t ht).nested.mono fun _ hc => hc.2.2
    have hsplit : splitTop '|' (render (union (e :: f :: es))) = (e :: f :: es).map renderPart := by
      rw [render, renderAlternatives_eq_map, List.map_cons,
        splitTop_join .nil rfl rfl (fun t ht => hbar t (List.mem_cons_of_mem _ ht)) _
          (hbar _ (List.mem_cons_self ..))]
      simp only [List.nil_append, List.map_id']
    rw [form_of_hasResult (.union (by simp) h) rfl, unionForm, hsplit]
    have htrim : ((e :: f :: es).map renderPart).map Text.trim = (e :: f :: es).map renderPart := by
      rw [List.map_map]
      exact List.map_congr_left fun g hg => trim_renderPart (h g hg)
    exact congrArg Form.union htrim

/-- The parts between the commas of a written list keep the blank behind their comma. -/
theorem splitTop_comma_join {t : Text} {ts : List Text} (h : ∀ u ∈ t :: ts, Nested (· ≠ ',') u) :
    splitTop ',' (Text.join [',', ' '] (t :: ts)) = t :: ts.map (' ' :: ·) :=
  splitTop_join (.plain rfl rfl (by decide) .nil) rfl rfl
    (fun u hu => h u (List.mem_cons_of_mem _ hu)) t (h t (List.mem_cons_self ..))

theorem genericArguments?_join {t : Text} {ts : List Text}
    (h : ∀ u ∈ t :: ts, Written (· ≠ ',') u) :
    genericArguments? (Text.join [',', ' '] (t :: ts) ++ ['>']) = some (t :: ts) := by
  have htrimmed : ∀ u ∈ t :: ts, Text.trim u = u := fun u hu => Text.trim_eq_self (h u hu).trimmed
  have hjoin : (Text.join [',', ' '] (t :: ts)).IsTrimmed :=
    Text.isTrimmed_join fun u hu => ⟨(h u hu).trimmed, (h u hu).ne_nil⟩
  rw [genericArguments?, splitClosing_nested (nested_arguments fun u hu => (h u hu).nested) rfl]
  simp only [Text.trim_eq_self hjoin, splitTop_comma_join fun u hu => (h u hu).nested,
    List.map_cons, List.map_map, htrimmed t (List.mem_cons_self ..)]
  have hrest : ts.map (Text.trim ∘ (' ' :: ·)) = ts.map id :=
    List.map_congr_left fun u hu => by
      rw [Function.comp_apply, Text.trim_cons_of_isBlank rfl,
        htrimmed u (List.mem_cons_of_mem _ hu), id]
  rw [hrest, List.map_id]

/-- A container has as many arguments as it takes. -/
theorem suits_of_wellFormed {name : Text} {arguments : List TypeTree}
    (h : (generic name arguments).WellFormed) :
    suits (Vocabulary.standard.head name) (arguments.map render) = true := by
  cases h with
  | generic hd ht hne harray hset hmap h =>
  rw [suits, Bool.and_eq_true]
  constructor
  · rw [List.all_eq_true]
    intro t hm
    obtain ⟨e, he, rfl⟩ := List.mem_map.1 hm
    simpa using (written_render (h e he)).ne_nil
  · rw [Vocabulary.head, List.length_map]
    split
    · rename_i ha
      simp [Head.arity?, harray (by simpa using ha)]
    · split
      · rename_i hm
        simp [Head.arity?, hmap (by simpa using hm)]
      · split
        · rename_i hs
          simp [Head.arity?, hset (by simpa using hs)]
        · rfl

theorem form_generic {name : Text} {arguments : List TypeTree}
    (hw : (generic name arguments).WellFormed) :
    form .standard (generic name arguments).render =
      .generic (Vocabulary.standard.head name) name (arguments.map render) := by
  have hsuits := suits_of_wellFormed hw
  rw [form_of_isLoose hw rfl, render, renderAll_eq_map]
  cases hw with
  | generic hd ht hne harray hset hmap h =>
  have hlast : ∀ c,
      (name ++ '<' :: (Text.join [',', ' '] (arguments.map render) ++ ['>'])).getLast? = some c →
        c ≠ '?' ∧ c ≠ ']' := by
    intro c hc
    rw [← List.cons_append, ← List.append_assoc, List.getLast?_concat] at hc
    cases hc
    decide
  have hstop : ∀ c, ('<' :: (Text.join [',', ' '] (arguments.map render) ++ ['>'])).head? = some c →
      ¬ Name.IsDottedChar c ∧ c ≠ '(' := by
    rintro c ⟨⟩
    exact ⟨not_isDottedChar (by decide) (by decide), by decide⟩
  have hhead :
      genericHead? (name ++ '<' :: (Text.join [',', ' '] (arguments.map render) ++ ['>'])) =
        some (name, Text.join [',', ' '] (arguments.map render) ++ ['>']) := by
    rw [genericHead?, Name.readDotted?_append_of_isDotted hd fun c hc => (hstop c hc).1]
    rfl
  have hargs : genericArguments? (Text.join [',', ' '] (arguments.map render) ++ ['>']) =
      some (arguments.map render) := by
    cases arguments with
    | nil => exact absurd rfl hne
    | cons e es =>
      refine genericArguments?_join fun u hu => ?_
      obtain ⟨g, hg, rfl⟩ := List.mem_map.1 (List.map_cons ▸ hu)
      exact (written_render (h g hg)).mono fun _ hc => hc.1
  rw [suffixForm_of_getLast? hlast, opened?_of_isDotted hd hstop, plainForm, hhead]
  simp only [genericForm, hargs, hsuits, ↓reduceIte]

/-! ### Function types -/

/-- The type of a written parameter. -/
theorem paramType?_append {x r : Text} (hx : Nested (· ≠ ':') x) (hr : Written p r) :
    paramType? (x ++ ':' :: ' ' :: r) = some r := by
  obtain ⟨c, cs, hcs, hc⟩ := hr.starts
  have hc' : c ≠ ':' ∧ Text.isBlank c = false := by
    rcases hc with hc | rfl
    · exact ⟨Name.ne_of_isRest (Name.isRest_of_isStart hc) (by decide),
        Name.isBlank_of_isRest (Name.isRest_of_isStart hc)⟩
    · decide
  have hjoin := join_splitTop ':' (' ' :: r)
  -- the first part behind the colon holds the blank and the first character of the type
  obtain ⟨part, parts, hparts⟩ : ∃ part parts,
      splitTop ':' (' ' :: r) = (' ' :: c :: part) :: parts := by
    obtain ⟨part, parts, hr'⟩ := exists_splitTop_cons hc'.1 cs
    refine ⟨part, parts, ?_⟩
    rw [hcs, splitTop, splitAt, ← splitTop, hr']
    rfl
  rw [hparts] at hjoin
  have hne : Text.trim (' ' :: c :: part) ≠ [] := Text.trim_ne_nil (by simp) hc'.2
  rw [paramType?, splitTop_append_cons hx rfl rfl, hparts]
  simp only [hne, ↓reduceIte, hjoin]
  rw [Text.trim_cons_of_isBlank rfl, Text.trim_eq_self hr.trimmed]

/-- **The types of written parameters**, in order. -/
theorem paramTypes_renderParams {params : List (Text × TypeTree)}
    (hn : ∀ p ∈ params, Name.isName p.1 = true) (h : ∀ p ∈ params, p.2.WellFormed) :
    paramTypes (Text.join [',', ' '] (renderParams params)) = params.map (·.2.render) := by
  have hname : ∀ q ∈ params, ∀ d, d ≠ '.' → Name.isRest d = false → Nested (· ≠ d) q.1 :=
    fun q hq d hdot hd => Name.nested_of_isDotted (Name.isDotted_of_isName (hn q hq))
      fun c hc => Name.ne_of_isDottedChar hc hd hdot
  have htype : ∀ q ∈ params, ∀ blank : Text, Nested (· ≠ ':') blank →
      paramType? (blank ++ (q.1 ++ ':' :: ' ' :: q.2.render)) = some q.2.render := by
    intro q hq blank hb
    rw [← List.append_assoc]
    exact paramType?_append (hb.append (hname q hq ':' (by decide) (by decide)))
      (written_render (h q hq))
  rw [paramTypes, renderParams_eq_map]
  cases params with
  | nil => rfl
  | cons q qs =>
    have hcomma : ∀ u ∈ (q :: qs).map fun r => r.1 ++ ':' :: ' ' :: r.2.render,
        Nested (· ≠ ',') u := by
      intro u hu
      obtain ⟨r, hr, rfl⟩ := List.mem_map.1 hu
      exact (hname r hr ',' (by decide) (by decide)).append
        (.plain rfl rfl (by decide) (.plain rfl rfl (by decide)
          ((written_render (h r hr)).nested.mono fun _ hc => hc.1)))
    have hfirst := htype q (List.mem_cons_self ..) [] .nil
    rw [List.nil_append] at hfirst
    rw [List.map_cons, splitTop_comma_join hcomma, List.filterMap_cons_some hfirst, List.map_map,
      List.filterMap_map, List.map_cons, ← List.filterMap_eq_map]
    congr 1
    refine List.filterMap_congr fun r hr => ?_
    exact htype r (List.mem_cons_of_mem _ hr) [' '] (.plain rfl rfl (by decide) .nil)

/-- A return value without a name in front of it is its own type. -/
theorem returnType?_eq_self {w : Text} (h : Written (· ≠ ':') w) : returnType? w = some w := by
  rw [returnType?, splitTop_eq_singleton h.nested]
  obtain ⟨c, cs, rfl, -⟩ := h.starts
  simp only [List.getLast?_singleton, Option.map_some, Text.trim_eq_self h.trimmed]

/-- The type of the one return value behind a parameter list. -/
theorem resultTypes_append {w type : Text} (h : Written (· ≠ ',') w)
    (htype : returnType? w = some type) : resultTypes (':' :: ' ' :: w) = [type] := by
  have htrim : Text.trim (':' :: ' ' :: w) = ':' :: ' ' :: w :=
    Text.trim_eq_self ((Text.isTrimmed_singleton (c := ':') rfl).append_append (m := [' '])
      h.trimmed (List.cons_ne_nil _ _) h.ne_nil)
  rw [resultTypes, htrim]
  simp only [Text.trim_cons_of_isBlank (c := ' ') rfl, Text.trim_eq_self h.trimmed]
  rw [splitTop_eq_singleton h.nested, List.filterMap_cons_some htype]
  rfl

/-- The parameter list of a written function type and what stands behind it. -/
theorem closed?_render {params : List (Text × TypeTree)}
    (hn : ∀ p ∈ params, Name.isName p.1 = true) (h : ∀ p ∈ params, p.2.WellFormed) {t rest : Text}
    (ht : t =
      'f' :: 'u' :: 'n' :: '(' :: (Text.join [',', ' '] (renderParams params) ++ ')' :: rest)) :
    ∃ body, opened? .standard t = some body ∧
      closed? .standard t body = some (Text.join [',', ' '] (renderParams params), rest) := by
  subst ht
  have hlist := nested_renderParams hn fun p hp => written_render (h p hp)
  exact ⟨_, rfl, splitClosing_nested hlist rfl rest⟩

theorem form_function_none {params : List (Text × TypeTree)}
    (hw : (function params none).WellFormed) :
    form .standard (function params none).render = .function (params.map (·.2.render)) := by
  have hlast : ∀ c, (render (function params none)).getLast? = some c → c ≠ '?' ∧ c ≠ ']' := by
    intro c hc
    rw [render, ← List.cons_append, ← List.cons_append, ← List.cons_append, ← List.cons_append,
      List.getLast?_concat] at hc
    cases hc
    decide
  rw [form_of_isLoose hw rfl, suffixForm_of_getLast? hlast]
  cases hw with
  | function hn h hr =>
  obtain ⟨body, hopened, hclosed⟩ := closed?_render hn h (rfl : render (function params none) = _)
  rw [hopened]
  simp only [hclosed]
  rw [paramTypes_renderParams hn h]
  simp [resultTypes, Text.trim, Text.trimLeft, Text.trimRight, Text.dropTrailing]

/-- A function type with a result takes all that stands behind its colon. -/
theorem form_of_result {params : List (Text × TypeTree)}
    (hn : ∀ p ∈ params, Name.isName p.1 = true) (h : ∀ p ∈ params, p.2.WellFormed) {w type : Text}
    (hw : Written (· ≠ ',') w) (htype : returnType? w = some type) :
    form .standard ('f' :: 'u' :: 'n' :: '(' ::
        (Text.join [',', ' '] (renderParams params) ++ ')' :: ':' :: ' ' :: w)) =
      .function (params.map (·.2.render) ++ [type]) := by
  obtain ⟨body, hopened, hclosed⟩ := closed?_render hn h
    (rfl : 'f' :: 'u' :: 'n' :: '(' ::
      (Text.join [',', ' '] (renderParams params) ++ ')' :: ':' :: ' ' :: w) = _)
  rw [form, ite_cond_eq_false _ _ (eq_false (List.cons_ne_nil _ _))]
  simp only [enclosed?_of_ne (c := 'f') (by decide), hopened, Option.bind_some, hclosed]
  rw [paramTypes_renderParams hn h, resultTypes_append hw htype]
  rfl

/-- The result of a written function type, in parentheses if it has a result itself, shows neither
commas nor colons. -/
theorem written_result {r : TypeTree} (h : r.WellFormed) :
    Written (fun c => c ≠ ',' ∧ c ≠ ':') (enclose r.hasResult r.render) := by
  refine (written_render h).enclose fun hf c hc => ⟨hc.1, fun hcolon => ?_⟩
  have := hc.2.1 hcolon
  rw [hf] at this
  cases this

theorem form_function_some {params : List (Text × TypeTree)} {r : TypeTree}
    (hw : (function params (some r)).WellFormed) :
    form .standard (function params (some r)).render =
      .function (params.map (·.2.render) ++ [enclose r.hasResult r.render]) := by
  cases hw with
  | function hn h hr =>
  have hresult := written_result (hr r rfl)
  exact form_of_result hn h (hresult.mono fun _ hc => hc.1)
    (returnType?_eq_self (hresult.mono fun _ hc => hc.2))

/-! ### Readings of written types -/

/-- A text is read as a given type, and nothing is wrong with it. -/
structure Reads (t : Text) (sketch : Sketch) : Prop where
  sketch_eq : (read .standard t).sketch = sketch
  issues_eq : (read .standard t).issues = []

theorem withRaw_raw (node : Sketch) : node.withRaw node.raw = node := by
  cases node
  rfl

/-- Parentheses change nothing but the text that is kept. -/
theorem Reads.enclose {t : Text} {sketch : Sketch} (h : Written p t) (hr : Reads t sketch)
    (needed : Bool) (hraw : sketch.raw = t) :
    Reads (enclose needed t) (sketch.withRaw (TypeTree.enclose needed t)) := by
  cases needed with
  | false =>
    rw [TypeTree.enclose, ite_cond_eq_false _ _ (by simp), ← hraw, withRaw_raw, hraw]
    exact hr
  | true =>
    have hread : read .standard (TypeTree.enclose true t) =
        combine .standard (TypeTree.enclose true t) (.enclosed (read .standard t)) := by
      rw [read_eq, form_enclose h]
      rfl
    refine ⟨?_, ?_⟩
    · rw [hread, combine, hr.sketch_eq]
    · rw [hread, combine, hr.issues_eq]

/-- Types that are read in order, none of them with an issue. -/
theorem allIssues_eq_nil {α : Type} {es : List α} {text : α → Text} {sketch : α → Sketch}
    (h : ∀ e ∈ es, Reads (text e) (sketch e)) :
    Reading.allIssues ((es.map text).map (read .standard)) = [] := by
  rw [Reading.allIssues, List.flatMap_eq_nil_iff]
  intro r hr
  rw [List.map_map] at hr
  obtain ⟨e, he, rfl⟩ := List.mem_map.1 hr
  exact (h e he).issues_eq

theorem map_sketch_read {α : Type} {es : List α} {text : α → Text} {sketch : α → Sketch}
    (h : ∀ e ∈ es, Reads (text e) (sketch e)) :
    ((es.map text).map (read .standard)).map (·.sketch) = es.map sketch := by
  rw [List.map_map, List.map_map]
  exact List.map_congr_left fun e he => (h e he).sketch_eq

theorem Reads.part {e : TypeTree} (h : e.WellFormed) (hr : Reads e.render (e.meaning id)) :
    Reads e.renderPart (e.meaningPart id) :=
  hr.enclose (written_render h) e.isLoose (raw_meaning id e)

/-- The symbols in several types, each once, are merged from those in each type. -/
theorem mergedRefs_eq {α : Type} {es : List α} {tree : α → TypeTree} {sketch : α → Sketch}
    (h : ∀ e ∈ es, (sketch e).refs = (tree e).names.eraseDups) :
    Sketch.mergedRefs (es.map sketch) = (es.flatMap fun e => (tree e).names).eraseDups := by
  have hrefs : (es.flatMap fun e => (sketch e).refs) =
      es.flatMap fun e => (tree e).names.eraseDups := List.flatMap_congr h
  rw [Sketch.mergedRefs, List.flatMap_map, hrefs, eraseDups_flatMap_eraseDups]

theorem refs_id (e : TypeTree) : e.refs id = e.names.eraseDups := List.map_id _

theorem read_of_isDotted {e : TypeTree} (h : e.WellFormed) (hl : e.isLoose = false)
    (hd : Name.isDotted e.render = true) (ht : Literal.isTruth e.render = false) :
    read .standard e.render = readName .standard e.render e.render := by
  rw [read_eq, form_of_isLoose h hl, suffixForm_of_isDotted hd ht]
  rfl

/-- A generic type of the usual vocabulary: its own name, if it is a symbol, comes before the
symbols in its arguments. -/
theorem sketch_genericReading (raw name : Text) (arguments : List Reading) :
    (genericReading .standard raw (Vocabulary.standard.head name) name arguments).sketch =
      ⟨raw, genericKind name, name, arguments.map (·.sketch),
        Sketch.mergedRefs (⟨name, genericKind name, name, [],
          if genericKind name = .reference then [name] else [], false⟩ :: arguments.map (·.sketch)),
        false⟩ := by
  simp only [genericReading, Vocabulary.head, genericKind, List.contains_iff_mem]
  by_cases harray : name ∈ Vocabulary.standard.arrays
  · simp only [harray, ↓reduceIte, headKind, reduceCtorEq]
    rfl
  by_cases hmap : name ∈ Vocabulary.standard.maps
  · simp only [harray, hmap, ↓reduceIte, headKind, reduceCtorEq]
    rfl
  by_cases hset : name ∈ Vocabulary.standard.sets
  · simp only [harray, hmap, hset, ↓reduceIte, headKind, reduceCtorEq]
    rfl
  by_cases hprim : name ∈ Vocabulary.standard.primitives
  · simp only [harray, hmap, hset, hprim, ↓reduceIte, headKind, reduceCtorEq, readName,
      Vocabulary.isPrimitive, List.contains_iff_mem]
    rfl
  · simp only [harray, hmap, hset, hprim, ↓reduceIte, headKind, readName, Vocabulary.isPrimitive,
      List.contains_iff_mem]

/-! ### Readings by shape -/

theorem reads_prim {name : Text} (h : name ∈ Vocabulary.standard.primitives) :
    Reads (prim name).render ((prim name).meaning id) := by
  obtain ⟨hd, ht⟩ := isDotted_of_mem_primitives h
  have hread := read_of_isDotted (.prim h) rfl hd ht
  have hprim : Vocabulary.standard.isPrimitive name = true := List.contains_iff_mem.2 h
  rw [readName, render, hprim] at hread
  exact ⟨by rw [render, hread]; rfl, by rw [render, hread]; rfl⟩

theorem reads_ref {name : Text} (hd : Name.isDotted name = true)
    (ht : Literal.isTruth name = false) (hp : name ∉ Vocabulary.standard.primitives) :
    Reads (ref name).render ((ref name).meaning id) := by
  have hread := read_of_isDotted (.ref hd ht hp) rfl hd ht
  have hprim : Vocabulary.standard.isPrimitive name = false := by
    simpa [Vocabulary.isPrimitive] using hp
  rw [readName, render, hprim] at hread
  exact ⟨by rw [render, hread]; rfl, by rw [render, hread]; rfl⟩

theorem reads_array {inner : TypeTree} (h : inner.WellFormed)
    (ih : Reads inner.render (inner.meaning id)) :
    Reads (array inner).render ((array inner).meaning id) := by
  have hpart := ih.part h
  have hread : read .standard (array inner).render =
      combine .standard (array inner).render (.array (read .standard inner.renderPart)) := by
    rw [read_eq, form_array h]
    rfl
  refine ⟨?_, ?_⟩
  · rw [hread, combine, hpart.sketch_eq, meaning, meaningPart, TypeNode.refs_withRaw, refs_meaning]
    rfl
  · rw [hread, combine, hpart.issues_eq]

theorem reads_optional {inner : TypeTree} (h : inner.WellFormed)
    (ih : Reads inner.render (inner.meaning id)) :
    Reads (optional inner).render ((optional inner).meaning id) := by
  have hpart := ih.part h
  have hread : read .standard (optional inner).render =
      combine .standard (optional inner).render (.optional (read .standard inner.renderPart)) := by
    rw [read_eq, form_optional h]
    rfl
  refine ⟨?_, ?_⟩
  · rw [hread, combine, hpart.sketch_eq, meaning, meaningPart]
  · rw [hread, combine, hpart.issues_eq]

theorem reads_generic {name : Text} {arguments : List TypeTree}
    (h : (generic name arguments).WellFormed)
    (ih : ∀ e ∈ arguments, Reads e.render (e.meaning id)) :
    Reads (generic name arguments).render ((generic name arguments).meaning id) := by
  have hread : read .standard (generic name arguments).render =
      combine .standard (generic name arguments).render
        (.generic (Vocabulary.standard.head name) name
          ((arguments.map render).map (read .standard))) := by
    rw [read_eq, form_generic h]
    rfl
  refine ⟨?_, ?_⟩
  · have hrefs : ∀ e ∈ arguments, (e.meaning id).refs = e.names.eraseDups :=
      fun e _ => by rw [refs_meaning, refs_id]
    rw [hread, combine, sketch_genericReading, map_sketch_read ih, meaning, meaningAll_eq_map,
      refs_id, names, namesAll_eq_flatMap]
    -- the name of the generic type is merged in front of the symbols of its arguments
    rw [Sketch.mergedRefs, List.flatMap_cons, ← eraseDups_append_eraseDups,
      ← Sketch.mergedRefs, mergedRefs_eq hrefs, eraseDups_append_eraseDups]
  · rw [hread, combine]
    exact allIssues_eq_nil ih

theorem reads_union {alternatives : List TypeTree} (hlen : 2 ≤ alternatives.length)
    (h : ∀ e ∈ alternatives, e.WellFormed)
    (ih : ∀ e ∈ alternatives, Reads e.render (e.meaning id)) :
    Reads (union alternatives).render ((union alternatives).meaning id) := by
  have hparts : ∀ e ∈ alternatives, Reads e.renderPart (e.meaningPart id) :=
    fun e he => (ih e he).part (h e he)
  have hread : read .standard (union alternatives).render =
      combine .standard (union alternatives).render
        (.union ((alternatives.map renderPart).map (read .standard))) := by
    rw [read_eq, form_union (.union hlen h)]
    rfl
  refine ⟨?_, ?_⟩
  · -- an optional alternative loses its mark but none of its symbols
    have hrefs : ∀ e ∈ alternatives,
        (e.meaningPart id).stripOptional.refs = e.names.eraseDups := by
      intro e he
      have hwraps := (read_complete .standard e.renderPart).wraps
      rw [(hparts e he).sketch_eq] at hwraps
      rw [hwraps, meaningPart, TypeNode.refs_withRaw, refs_meaning, refs_id]
    have hmerged : Sketch.mergedRefs ((alternatives.map (meaningPart id)).map (·.stripOptional)) =
        (alternatives.flatMap names).eraseDups := by
      rw [List.map_map]
      exact mergedRefs_eq hrefs
    rw [hread, combine, map_sketch_read hparts, unionSketch, hmerged, meaning,
      meaningAlternatives_eq_map, refs_id, names, namesAll_eq_flatMap]
    rfl
  · rw [hread, combine]
    exact allIssues_eq_nil hparts

theorem reads_function_none {params : List (Text × TypeTree)}
    (h : (function params none).WellFormed)
    (ih : ∀ q ∈ params, Reads q.2.render (q.2.meaning id)) :
    Reads (function params none).render ((function params none).meaning id) := by
  have hrefs : ∀ q ∈ params, (q.2.meaning id).refs = q.2.names.eraseDups :=
    fun q _ => by rw [refs_meaning, refs_id]
  have hread : read .standard (function params none).render =
      combine .standard (function params none).render
        (.function ((params.map (·.2.render)).map (read .standard))) := by
    rw [read_eq, form_function_none h]
    rfl
  refine ⟨?_, ?_⟩
  · rw [hread, combine, map_sketch_read ih, mergedRefs_eq hrefs, meaning, refs_id, names,
      namesParams_eq_flatMap]
    rfl
  · rw [hread, combine]
    exact allIssues_eq_nil ih

theorem reads_function_some {params : List (Text × TypeTree)} {r : TypeTree}
    (h : (function params (some r)).WellFormed) (hr : r.WellFormed)
    (ih : ∀ q ∈ params, Reads q.2.render (q.2.meaning id)) (ihr : Reads r.render (r.meaning id)) :
    Reads (function params (some r)).render ((function params (some r)).meaning id) := by
  have hrefs : ∀ q ∈ params, (q.2.meaning id).refs = q.2.names.eraseDups :=
    fun q _ => by rw [refs_meaning, refs_id]
  have hresult : Reads (enclose r.hasResult r.render)
      ((r.meaning id).withRaw (enclose r.hasResult r.render)) :=
    ihr.enclose (written_render hr) r.hasResult (raw_meaning id r)
  have hread : read .standard (function params (some r)).render =
      combine .standard (function params (some r)).render
        (.function ((params.map (·.2.render)).map (read .standard) ++
          [read .standard (enclose r.hasResult r.render)])) := by
    rw [read_eq, form_function_some h]
    simp only [Form.map, List.map_append, List.map_cons, List.map_nil]
  refine ⟨?_, ?_⟩
  · -- the symbols of the parameters are merged first, then those of the result
    rw [hread, combine, List.map_append, map_sketch_read ih, List.map_cons, List.map_nil,
      hresult.sketch_eq, Sketch.mergedRefs, List.flatMap_append, ← eraseDups_eraseDups_append,
      ← Sketch.mergedRefs, mergedRefs_eq hrefs, List.flatMap_singleton, TypeNode.refs_withRaw,
      refs_meaning, refs_id, eraseDups_eraseDups_append, eraseDups_append_eraseDups, meaning,
      refs_id, names, namesParams_eq_flatMap]
    rfl
  · rw [hread, combine, Reading.allIssues, List.flatMap_append, List.flatMap_singleton,
      hresult.issues_eq, List.append_nil]
    exact allIssues_eq_nil ih

/-- **A written type is read as its meaning**, without issues. -/
theorem read_render {e : TypeTree} (h : e.WellFormed) : Reads e.render (e.meaning id) := by
  induction h with
  | prim h => exact reads_prim h
  | ref hd ht hp => exact reads_ref hd ht hp
  | array h ih => exact reads_array h ih
  | optional h ih => exact reads_optional h ih
  | generic hd ht hne harray hset hmap h ih =>
    exact reads_generic (.generic hd ht hne harray hset hmap h) ih
  | union hlen h ih => exact reads_union hlen h ih
  | @function params result hn h hr ih ihr =>
    cases result with
    | none => exact reads_function_none (.function hn h hr) ih
    | some r => exact reads_function_some (.function hn h hr) (hr r rfl) ih (ihr r rfl)

/-! ### Types in a catalogue under construction -/

/-- **Reading a written type gives its meaning.**  Whatever was declared before, nothing is
reported, every symbol of the type is found in the table under its name, and a name that stood for a
symbol before still stands for that symbol. -/
theorem readType_render {e : TypeTree} (h : e.WellFormed) (d : Draft) (file line : Nat) :
    let r := d.readType .standard e.render file line
    r.1.diagnostics = d.diagnostics ∧
      r.2 = e.meaning (fun name => ⟨name, r.1.table.idOf name⟩) ∧
      ∀ name ∈ e.names, ∃ s, r.1.table.lookup? name = some s ∧ r.1.table.idOf name = s.id ∧
        ∀ before, d.table.lookup? name = some before → s = before := by
  have hread := read_render h
  have htrim : Text.trim e.render = e.render := Text.trim_eq_self (written_render h).trimmed
  intro r
  have hr : r = d.readType .standard e.render file line := rfl
  rw [Draft.readType_eq_read, htrim] at hr
  have htable : r.1.table =
      d.table.resolveAll (read .standard e.render).mentions file line := by
    rw [hr]
    rfl
  refine ⟨?_, ?_, ?_⟩
  · rw [hr]
    simp [Draft.carryOut, Draft.settle, Draft.reportAll, hread.issues_eq]
  · rw [htable, hr]
    simp only [Draft.carryOut, SymbolTable.sign]
    rw [hread.sketch_eq, mapRefs_meaning]
    rfl
  · intro name hname
    have hmention : name ∈ (read .standard e.render).mentions := by
      rw [← mem_refs_read_iff, hread.sketch_eq, refs_meaning, refs_id]
      exact List.mem_eraseDups.2 hname
    obtain ⟨s, hs⟩ : ∃ s, r.1.table.lookup? name = some s := by
      rw [htable]
      exact SymbolTable.exists_lookup?_resolveAll hmention
    refine ⟨s, hs, by rw [SymbolTable.idOf, hs]; rfl, ?_⟩
    intro before hbefore
    have hkept : r.1.table.lookup? name = some before := by
      rw [htable]
      exact SymbolTable.lookup?_resolveAll_of_eq_some hbefore _
    rw [hkept] at hs
    exact (Option.some_inj.1 hs).symm

/-- A function type whose parameters and result hold the other shapes, read by a draft that has met
nothing yet. -/
theorem readType_render_nested :
    let e := function
      [("x".toList, generic "table".toList [prim "string".toList, array (ref "Foo.Bar".toList)]),
       ("y".toList, optional (union [ref "A".toList, prim "nil".toList]))]
      (some (function [] (some (ref "A".toList))))
    let r := Draft.readType .standard {} e.render 0 1
    e.render = "fun(x: table<string, Foo.Bar[]>, y: (A|nil)?): (fun(): A)".toList ∧
      e.WellFormed ∧ r.1.diagnostics = [] ∧
      r.2 = e.meaning (fun name => ⟨name, r.1.table.idOf name⟩) ∧
      ∀ name ∈ e.names, ∃ s, r.1.table.lookup? name = some s ∧ r.1.table.idOf name = s.id ∧
        ∀ before, SymbolTable.lookup? {} name = some before → s = before := by
  intro e r
  have hA : (ref "A".toList).WellFormed := .ref (by decide) (by decide) (by decide)
  have hmap : (generic "table".toList
      [prim "string".toList, array (ref "Foo.Bar".toList)]).WellFormed := by
    refine .generic (by decide) (by decide) (by simp) (fun h => absurd h (by decide))
      (fun h => absurd h (by decide)) (fun _ => rfl) ?_
    simp only [List.forall_mem_cons]
    exact ⟨.prim (by decide), .array (.ref (by decide) (by decide) (by decide)), nofun⟩
  have hunion : (union [ref "A".toList, prim "nil".toList]).WellFormed := by
    refine .union (by decide) ?_
    simp only [List.forall_mem_cons]
    exact ⟨hA, .prim (by decide), nofun⟩
  have hwell : e.WellFormed := by
    refine .function ?_ ?_ ?_
    · decide
    · simp only [List.forall_mem_cons]
      exact ⟨hmap, .optional hunion, nofun⟩
    · rintro _ ⟨⟩
      exact .function nofun nofun fun _ h => Option.some_inj.1 h ▸ hA
  exact ⟨by decide, hwell, readType_render hwell {} 0 1⟩

end TypeTree

end LuaAtlas
