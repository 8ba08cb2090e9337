import LuaAtlas.Proofs.Symbol.Resolving
import LuaAtlas.Proofs.TypeExpr.RoundTrip

/-!
# Chains of function types

The result of a function type may be a function type again: `fun(x: A): fun(y: B): C`.  With
parentheses around it the result is read as any other type.  Without them the colons of the whole
chain stand side by side outside all brackets, and the type of a return value is what stands behind
the last of them (`returnType?_renderChain`).  So a chain is read as if nothing stood between its
first parameter list and its final result (`readType_renderChain`): the names in the parameter lists
between are not mentioned, unless they are named elsewhere (`missed_parameter`).
-/

namespace LuaAtlas

open LuaAtlas.Bracket

namespace TypeTree

open TypeExpr

variable {first params : List (Text × TypeTree)} {more chain : List (List (Text × TypeTree))}
  {result : TypeTree} {name : Text}

/-! ### Writing -/

/-- **A chain of function types as it is written**, given by their parameter lists and the result of
the last one.  Each function type but the first stands as the result of the one before it, without
parentheses. -/
def renderChain : List (List (Text × TypeTree)) → TypeTree → Text
  | [], result => enclose result.hasResult result.render
  | params :: more, result =>
    'f' :: 'u' :: 'n' :: '(' :: (Text.join [',', ' '] (renderParams params) ++
      ')' :: ':' :: ' ' :: renderChain more result)

/-- The symbols in a chain from left to right. -/
def namesChain (chain : List (List (Text × TypeTree))) (result : TypeTree) : List Text :=
  chain.flatMap namesParams ++ result.names

/-- A chain of one function type is that type. -/
theorem renderChain_singleton (params : List (Text × TypeTree)) (result : TypeTree) :
    renderChain [params] result = (function params (some result)).render := by
  rw [render]
  rfl

/-- A parameter list with one entry. -/
theorem wellFormed_unary {type : TypeTree} (hname : Name.isName name = true)
    (htype : type.WellFormed) : (function [(name, type)] none).WellFormed := by
  refine .function ?_ ?_ nofun
  · simpa using hname
  · simpa using htype

/-- The parameter list of a function type without the colon behind it is nested, and no colon stands
outside its parentheses. -/
theorem nested_head (h : (function params none).WellFormed) (p : Char → Prop)
    (hp : ∀ c, Name.IsDottedChar c → p c) :
    Nested p ('f' :: 'u' :: 'n' :: '(' ::
      (Text.join [',', ' '] (renderParams params) ++ [')'])) := by
  cases h with
  | function hn hw _ =>
  have hname : Nested p ['f', 'u', 'n'] := Name.nested_of_isDotted (by decide) hp
  have hlist := nested_renderParams hn fun q hq => written_render (hw q hq)
  exact hname.append (Nested.between rfl rfl hlist)

/-- A chain from outside: no comma stands outside its brackets. -/
theorem written_renderChain (hc : ∀ params ∈ chain, (function params none).WellFormed)
    (hr : result.WellFormed) : Written (· ≠ ',') (renderChain chain result) := by
  induction chain with
  | nil => exact (written_result hr).mono fun _ hc => hc.1
  | cons params more ih =>
    have hmore := ih fun q hq => hc q (List.mem_cons_of_mem _ hq)
    have hhead := nested_head (hc params (List.mem_cons_self ..)) (· ≠ ',')
      fun c h => Name.ne_of_isDottedChar h (by decide) (by decide)
    have hcolon : Nested (· ≠ ',') (':' :: ' ' :: renderChain more result) :=
      .plain rfl rfl (by decide) (.plain rfl rfl (by decide) hmore.nested)
    have hnested := hhead.append hcolon
    have htrimmed := (Text.isTrimmed_singleton (c := 'f') rfl).append_append
      (m := 'u' :: 'n' :: '(' :: (Text.join [',', ' '] (renderParams params) ++ [')', ':', ' ']))
      hmore.trimmed (List.cons_ne_nil _ _) hmore.ne_nil
    rw [renderChain]
    refine ⟨⟨'f', _, rfl, Or.inl (by decide)⟩, ?_, ?_⟩
    · simpa using htrimmed
    · simpa using hnested

/-! ### The type behind the last colon -/

/-- What stands in front of a colon is not part of the type of a return value. -/
theorem returnType?_append {front : Text} (h : Nested (· ≠ ':') front) (rest : Text) :
    returnType? (front ++ ':' :: rest) = returnType? rest := by
  have hlast : (front :: splitTop ':' rest).getLast? = (splitTop ':' rest).getLast? := by
    cases hs : splitTop ':' rest with
    | nil => exact absurd hs (splitAt_ne_nil _ _ _)
    | cons part parts => rfl
  rw [returnType?, returnType?, splitTop_append_cons h rfl rfl, hlast]

/-- A blank in front of a return value does not matter. -/
theorem returnType?_cons_blank (rest : Text) : returnType? (' ' :: rest) = returnType? rest := by
  have hsplit : splitTop ':' (' ' :: rest) = consFirst ' ' (splitTop ':' rest) := rfl
  have hlast : (splitTop ':' (' ' :: rest)).getLast?.map Text.trim =
      (splitTop ':' rest).getLast?.map Text.trim := by
    have hne : splitTop ':' rest ≠ [] := splitAt_ne_nil ':' 0 rest
    rw [hsplit]
    match splitTop ':' rest, hne with
    | [part], _ =>
      show some (Text.trim (' ' :: part)) = some (Text.trim part)
      rw [Text.trim_cons_of_isBlank rfl]
    | part :: next :: parts, _ => rfl
  rw [returnType?, returnType?, hlast]

/-- **The type that a chain returns is its final result**, however many function types stand in
front of it. -/
theorem returnType?_renderChain (hc : ∀ params ∈ chain, (function params none).WellFormed)
    (hr : result.WellFormed) :
    returnType? (renderChain chain result) = some (enclose result.hasResult result.render) := by
  induction chain with
  | nil => exact returnType?_eq_self ((written_result hr).mono fun _ hc => hc.2)
  | cons params more ih =>
    have hhead := nested_head (hc params (List.mem_cons_self ..)) (· ≠ ':')
      fun c h => Name.ne_of_isDottedChar h (by decide) (by decide)
    have hskip := returnType?_append hhead (' ' :: renderChain more result)
    rw [returnType?_cons_blank, ih fun q hq => hc q (List.mem_cons_of_mem _ hq)] at hskip
    rw [renderChain, ← hskip]
    simp

/-! ### Reading -/

/-- **A chain has the form of its first function type with the final result.** -/
theorem form_renderChain (hc : ∀ params ∈ first :: more, (function params none).WellFormed)
    (hr : result.WellFormed) :
    form .standard (renderChain (first :: more) result) =
      form .standard (function first (some result)).render := by
  have hmore : ∀ params ∈ more, (function params none).WellFormed :=
    fun q hq => hc q (List.mem_cons_of_mem _ hq)
  cases hc first (List.mem_cons_self ..) with
  | function hn hw _ =>
  have hwell : (function first (some result)).WellFormed :=
    .function hn hw fun e he => Option.some_inj.1 he ▸ hr
  rw [renderChain, form_function_some hwell]
  exact form_of_result hn hw (written_renderChain hmore hr) (returnType?_renderChain hmore hr)

/-- A chain is read as its first function type with the final result; only the text is kept
whole. -/
theorem reads_renderChain (hc : ∀ params ∈ first :: more, (function params none).WellFormed)
    (hr : result.WellFormed) :
    let t := renderChain (first :: more) result
    Reads t (((function first (some result)).meaning id).withRaw t) := by
  have hform := form_renderChain hc hr
  cases hc first (List.mem_cons_self ..) with
  | function hn hw _ =>
  have hwell : (function first (some result)).WellFormed :=
    .function hn hw fun e he => Option.some_inj.1 he ▸ hr
  have hread := read_render hwell
  have hshape := form_function_some hwell
  rw [hshape] at hform
  obtain ⟨hsketch, hissues⟩ := hread
  rw [read_eq, hshape] at hsketch hissues
  constructor
  · rw [read_eq, hform, ← hsketch]
    rfl
  · rw [read_eq, hform]
    exact hissues

/-- **What a chain of function types gives up.**  Nothing is reported, and the chain is read as its
first function type with the final result: it mentions the symbols in the first parameter list and
in the result, and no others.  So it mentions every symbol that occurs in it exactly if those in the
later parameter lists occur in the first one or in the result too. -/
theorem readType_renderChain (hc : ∀ params ∈ first :: more, (function params none).WellFormed)
    (hr : result.WellFormed) (d : Draft) (file line : Nat) :
    let t := renderChain (first :: more) result
    let r := d.readType .standard t file line
    r.1.diagnostics = d.diagnostics ∧
      r.2 = ((function first (some result)).meaning fun name =>
        ⟨name, r.1.table.idOf name⟩).withRaw t ∧
      (∀ name, name ∈ r.2.refs.map (·.token) ↔ name ∈ namesParams first ∨ name ∈ result.names) ∧
      ((∀ name ∈ namesChain (first :: more) result, name ∈ r.2.refs.map (·.token)) ↔
        ∀ params ∈ more, ∀ name ∈ namesParams params,
          name ∈ namesParams first ∨ name ∈ result.names) := by
  intro t r
  have hread := reads_renderChain hc hr
  have htrim : Text.trim t = t := Text.trim_eq_self (written_renderChain hc hr).trimmed
  have hr : r = d.readType .standard t file line := rfl
  rw [Draft.readType_eq_read, htrim] at hr
  have hrefs : ∀ name, name ∈ r.2.refs.map (·.token) ↔
      name ∈ namesParams first ∨ name ∈ result.names := by
    intro name
    have htokens : r.2.refs.map (·.token) = (namesParams first ++ result.names).eraseDups := by
      rw [hr, Draft.carryOut, SymbolTable.map_token_sign, hread.sketch_eq, TypeNode.refs_withRaw,
        refs_meaning, refs_id, names]
    rw [htokens, List.mem_eraseDups, List.mem_append]
  refine ⟨?_, ?_, hrefs, ?_⟩
  · rw [hr]
    simp [Draft.carryOut, Draft.settle, Draft.reportAll, t, hread.issues_eq]
  · rw [hr]
    simp only [Draft.carryOut, SymbolTable.sign]
    rw [hread.sketch_eq, TypeNode.mapRefs_withRaw, mapRefs_meaning]
    rfl
  · constructor
    · intro hall params hparams name hname
      rw [← hrefs]
      apply hall
      exact List.mem_append_left _
        (List.mem_flatMap.2 ⟨params, List.mem_cons_of_mem _ hparams, hname⟩)
    · intro hall name hname
      rw [hrefs]
      rcases List.mem_append.1 hname with hlist | hresult
      · obtain ⟨params, hparams, hmem⟩ := List.mem_flatMap.1 hlist
        rcases List.mem_cons.1 hparams with rfl | hparams
        · exact Or.inl hmem
        · exact hall params hparams name hmem
      · exact Or.inr hresult

/-- A chain of three function types in which each symbol occurs in the first parameter list or in
the final result. -/
theorem readType_renderChain_three :
    let chain := [[("x".toList, ref "A".toList)], [("y".toList, array (ref "B".toList))],
      [("z".toList, ref "A".toList)]]
    let result := union [ref "B".toList, prim "nil".toList]
    let r := Draft.readType .standard {} (renderChain chain result) 0 1
    renderChain chain result = "fun(x: A): fun(y: B[]): fun(z: A): B|nil".toList ∧
      (∀ params ∈ chain, (function params none).WellFormed) ∧ result.WellFormed ∧
      r.1.diagnostics = [] ∧
      ∀ name ∈ namesChain chain result, name ∈ r.2.refs.map (·.token) := by
  intro chain result r
  have hA : (ref "A".toList).WellFormed := .ref (by decide) (by decide) (by decide)
  have hB : (ref "B".toList).WellFormed := .ref (by decide) (by decide) (by decide)
  have hchain : ∀ params ∈ chain, (function params none).WellFormed := by
    simp only [chain, List.forall_mem_cons]
    exact ⟨wellFormed_unary (by decide) hA, wellFormed_unary (by decide) (.array hB),
      wellFormed_unary (by decide) hA, nofun⟩
  have hresult : result.WellFormed := by
    refine .union (by decide) ?_
    simp only [List.forall_mem_cons]
    exact ⟨hB, .prim (by decide), nofun⟩
  obtain ⟨hissues, -, -, hall⟩ := readType_renderChain hchain hresult {} 0 1
  exact ⟨by decide, hchain, hresult, hissues, hall.2 (by decide)⟩

/-- A symbol that occurs in the second parameter list of a chain alone is not mentioned. -/
theorem missed_parameter :
    let chain := [[("x".toList, ref "A".toList)], [("y".toList, ref "B".toList)]]
    let result := ref "C".toList
    let r := Draft.readType .standard {} (renderChain chain result) 0 1
    renderChain chain result = "fun(x: A): fun(y: B): C".toList ∧
      (∀ params ∈ chain, (function params none).WellFormed) ∧ result.WellFormed ∧
      "B".toList ∈ namesChain chain result ∧
      r.2.refs.map (·.token) = ["A".toList, "C".toList] := by
  intro chain result r
  have hA : (ref "A".toList).WellFormed := .ref (by decide) (by decide) (by decide)
  have hB : (ref "B".toList).WellFormed := .ref (by decide) (by decide) (by decide)
  refine ⟨by decide, ?_, .ref (by decide) (by decide) (by decide), by decide, by decide +kernel⟩
  simp only [chain, List.forall_mem_cons]
  exact ⟨wellFormed_unary (by decide) hA, wellFormed_unary (by decide) hB, nofun⟩

end TypeTree

end LuaAtlas
