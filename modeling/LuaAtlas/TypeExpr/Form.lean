import LuaAtlas.Text.Bracket
import LuaAtlas.Name
import LuaAtlas.Literal
import LuaAtlas.Vocabulary

/-!
# The outermost form of a type

A type is read from the outside in.  `form` decides which construction a trimmed text is and which
texts it is made of; nothing is read recursively here.  Every piece of a form is shorter than the
text (`length_lt_of_mem_pieces`), which is why reading ends.
-/

namespace LuaAtlas.TypeExpr

/-- The outermost construction of a type over its pieces. -/
inductive Form (α : Type) where
  /-- No text at all. -/
  | empty
  /-- A type in parentheses. -/
  | enclosed (inner : α)
  /-- A function type, with the types of its parameters and return values. -/
  | function (mentioned : List α)
  /-- A function type whose parenthesis is never closed. -/
  | unclosed
  /-- Alternatives with bars between them. -/
  | union (alternatives : List α)
  /-- A type with a question mark behind it. -/
  | optional (inner : α)
  /-- A type with a pair of square brackets behind it. -/
  | array (inner : α)
  /-- A name with type arguments. -/
  | generic (head : Head) (name : Text) (arguments : List α)
  /-- A name with type arguments that cannot be used. -/
  | malformed (head : Head) (name : Text)
  | literal
  /-- A dotted name. -/
  | dotted
  | unrecognized
  deriving Repr

namespace Form

variable {α β : Type}

/-- The pieces of a form. -/
def pieces : Form α → List α
  | enclosed inner => [inner]
  | function mentioned => mentioned
  | union alternatives => alternatives
  | optional inner => [inner]
  | array inner => [inner]
  | generic _ _ arguments => arguments
  | _ => []

/-- The form with every piece replaced; the replacement may use that it is a piece. -/
def mapPieces (f : Form α) (g : (a : α) → a ∈ f.pieces → β) : Form β :=
  match f with
  | empty => empty
  | enclosed inner => enclosed (g inner (List.mem_singleton_self _))
  | function mentioned => function (mentioned.pmap g fun _ h => h)
  | unclosed => unclosed
  | union alternatives => union (alternatives.pmap g fun _ h => h)
  | optional inner => optional (g inner (List.mem_singleton_self _))
  | array inner => array (g inner (List.mem_singleton_self _))
  | generic head name arguments => generic head name (arguments.pmap g fun _ h => h)
  | malformed head name => malformed head name
  | literal => literal
  | dotted => dotted
  | unrecognized => unrecognized

/-- The form with a function applied to every piece. -/
def map (g : α → β) : Form α → Form β
  | empty => empty
  | enclosed inner => enclosed (g inner)
  | function mentioned => function (mentioned.map g)
  | unclosed => unclosed
  | union alternatives => union (alternatives.map g)
  | optional inner => optional (g inner)
  | array inner => array (g inner)
  | generic head name arguments => generic head name (arguments.map g)
  | malformed head name => malformed head name
  | literal => literal
  | dotted => dotted
  | unrecognized => unrecognized

/-- Without use of membership, replacing is mapping. -/
theorem mapPieces_eq_map (f : Form α) (g : α → β) : (f.mapPieces fun a _ => g a) = f.map g := by
  cases f with
  | function => exact congrArg function (List.pmap_eq_map ..)
  | union => exact congrArg union (List.pmap_eq_map ..)
  | generic head name => exact congrArg (generic head name) (List.pmap_eq_map ..)
  | _ => rfl

end Form

/-! ### Function types -/

/-- The text behind the opening of a function type. -/
def opened? (v : Vocabulary) (t : Text) : Option Text := Text.after? v.functionOpening t

/-- The bracket depth behind the opening: its last character opens the parameter list.  An empty
opening takes the last character of the type in its place. -/
def openingDepth (v : Vocabulary) (t : Text) : Int :=
  match v.functionOpening.getLast? with
  | some c => Bracket.step 0 c
  | none => (t.getLast?.map (Bracket.step 0)).getD 0

/-- The parameter list of a function type and the text behind it, if the list is closed. -/
def closed? (v : Vocabulary) (t body : Text) : Option (Text × Text) :=
  Bracket.splitClosing (openingDepth v t) body

/-- The type of a parameter: all that stands behind its first colon. -/
def paramType? (param : Text) : Option Text :=
  match Bracket.splitTop ':' param with
  | _ :: p :: ps => if Text.trim p = [] then none else some (Text.trim (Text.join [':'] (p :: ps)))
  | _ => none

/-- The type of a return value: all that stands behind its last colon. -/
def returnType? (value : Text) : Option Text :=
  match (Bracket.splitTop ':' value).getLast?.map Text.trim with
  | some (c :: cs) => some (c :: cs)
  | _ => none

/-- The types of the parameters in a parameter list. -/
def paramTypes (params : Text) : List Text := (Bracket.splitTop ',' params).filterMap paramType?

/-- The types of the return values behind a parameter list: they follow a colon. -/
def resultTypes (rest : Text) : List Text :=
  match Text.trim rest with
  | ':' :: cs => (Bracket.splitTop ',' (Text.trim cs)).filterMap returnType?
  | _ => []

/-- Whether a colon stands behind a parameter list. -/
def hasResult (rest : Text) : Bool := (Text.trimLeft rest).head? == some ':'

/-! ### Generic types -/

/-- A dotted name in front of `<`, and what stands behind the `<`. -/
def genericHead? (t : Text) : Option (Text × Text) :=
  match Name.readDotted? t with
  | some (name, rest) =>
    match Text.trimLeft rest with
    | '<' :: cs => some (name, cs)
    | _ => none
  | none => none

/-- The arguments of a generic type, if its bracket closes at the end of the text. -/
def genericArguments? (behind : Text) : Option (List Text) :=
  match Bracket.splitClosing 1 behind with
  | some (content, []) => some ((Bracket.splitTop ',' (Text.trim content)).map Text.trim)
  | _ => none

/-- Whether arguments suit what the name stands for: none of them is empty and their number is
right. -/
def suits (head : Head) (arguments : List Text) : Bool :=
  arguments.all (! ·.isEmpty) && head.arity?.all (· == arguments.length)

/-- The form of a generic type. -/
def genericForm (v : Vocabulary) (name behind : Text) : Form Text :=
  match genericArguments? behind with
  | some arguments =>
    if suits (v.head name) arguments then .generic (v.head name) name arguments
    else .malformed (v.head name) name
  | none => .malformed (v.head name) name

/-! ### The form -/

/-- The inside of a text whose first parenthesis closes at its end. -/
def enclosed? : Text → Option Text
  | '(' :: cs =>
    match Bracket.splitClosing 1 cs with
    | some (inner, []) => some inner
    | _ => none
  | _ => none

/-- The forms without brackets of their own. -/
def plainForm (v : Vocabulary) (t : Text) : Form Text :=
  match genericHead? t with
  | some (name, behind) => genericForm v name behind
  | none =>
    if Literal.isLiteral t then .literal
    else if Name.isDotted t then .dotted
    else .unrecognized

/-- The forms that remain when the text is neither a union nor a function with a result. -/
def suffixForm (v : Vocabulary) (t : Text) : Form Text :=
  match t.reverse with
  | '?' :: front => .optional (Text.trim front.reverse)
  | ']' :: '[' :: front => .array (Text.trim front.reverse)
  | _ =>
    match opened? v t with
    | some body =>
      match closed? v t body with
      | some (params, rest) => .function (paramTypes params ++ resultTypes rest)
      | none => .unclosed
    | none => plainForm v t

/-- The forms of a text that is not in parentheses and no function with a result. -/
def unionForm (v : Vocabulary) (t : Text) : Form Text :=
  match Bracket.splitTop '|' t with
  | a :: b :: more => .union ((a :: b :: more).map Text.trim)
  | _ => suffixForm v t

/-- **The outermost form of a trimmed text.**  A function type with a result takes the whole text
behind its colon, so it is looked for before the bars of a union. -/
def form (v : Vocabulary) (t : Text) : Form Text :=
  if t = [] then .empty
  else
    match enclosed? t with
    | some inner => .enclosed (Text.trim inner)
    | none =>
      match (opened? v t).bind (closed? v t) with
      | some (params, rest) =>
        if hasResult rest then .function (paramTypes params ++ resultTypes rest) else unionForm v t
      | none => unionForm v t

/-! ### Pieces are shorter than the text -/

/-- A part is no longer than the joined parts, and shorter when there are two or more. -/
theorem length_le_of_mem_join (separator : Char) {ps : List Text} {p : Text} (h : p ∈ ps) :
    p.length ≤ (Text.join [separator] ps).length ∧
      (2 ≤ ps.length → p.length < (Text.join [separator] ps).length) := by
  induction ps with
  | nil => simp at h
  | cons a ps ih =>
    cases ps with
    | nil =>
      rw [List.mem_singleton] at h
      subst h
      simp [Text.join]
    | cons b ps =>
      simp only [Text.join, List.length_append, List.length_cons, List.length_nil]
      rcases List.mem_cons.1 h with rfl | h
      · exact ⟨by omega, fun _ => by omega⟩
      · have := (ih h).1
        exact ⟨by omega, fun _ => by omega⟩

/-- A part of a text is no longer than the text. -/
theorem length_le_of_mem_splitTop {separator : Char} {t p : Text}
    (h : p ∈ Bracket.splitTop separator t) : p.length ≤ t.length := by
  have := (length_le_of_mem_join separator h).1
  rwa [Bracket.join_splitTop] at this

/-- The trimmed type of a parameter is no longer than the parameter. -/
theorem length_lt_of_paramType? {param type : Text} (h : paramType? param = some type) :
    type.length < param.length := by
  have e := Bracket.join_splitTop ':' param
  unfold paramType? at h
  split at h
  · rename_i a p ps hs
    rw [hs] at e
    split at h
    · cases h
    · cases h
      refine Nat.lt_of_le_of_lt (Text.length_trim_le _) ?_
      rw [← e]
      simp only [Text.join, List.length_append, List.length_cons, List.length_nil]
      omega
  · cases h

/-- The trimmed type of a return value is no longer than the value. -/
theorem length_le_of_returnType? {value type : Text} (h : returnType? value = some type) :
    type.length ≤ value.length := by
  unfold returnType? at h
  split at h
  · rename_i c cs hs
    cases h
    obtain ⟨p, hp, he⟩ := Option.map_eq_some_iff.1 hs
    rw [← he]
    exact Nat.le_trans (Text.length_trim_le _)
      (length_le_of_mem_splitTop (List.mem_of_getLast? hp))
  · cases h

/-- The types in a parameter list are shorter than the list. -/
theorem length_lt_of_mem_paramTypes {params p : Text} (h : p ∈ paramTypes params) :
    p.length < params.length := by
  obtain ⟨part, hm, ht⟩ := List.mem_filterMap.1 h
  exact Nat.lt_of_lt_of_le (length_lt_of_paramType? ht) (length_le_of_mem_splitTop hm)

/-- The types behind a parameter list are shorter than what stands there. -/
theorem length_lt_of_mem_resultTypes {rest p : Text} (h : p ∈ resultTypes rest) :
    p.length < rest.length := by
  unfold resultTypes at h
  split at h
  · rename_i cs hs
    obtain ⟨value, hm, ht⟩ := List.mem_filterMap.1 h
    have h₁ := length_le_of_returnType? ht
    have h₂ := length_le_of_mem_splitTop hm
    have h₃ := Text.length_trim_le cs
    have h₄ := Text.length_trim_le rest
    rw [hs, List.length_cons] at h₄
    omega
  · cases h

/-- What stands behind the opening of a function type is no longer than the type. -/
theorem length_le_of_opened? {v : Vocabulary} {t body : Text} (h : opened? v t = some body) :
    body.length ≤ t.length := by
  rw [Text.after?_eq_some_iff.1 h, List.length_append]
  omega

/-- The types that a function type mentions are shorter than what stands behind its opening. -/
theorem length_lt_of_mem_function {depth : Int} {body params rest p : Text}
    (hc : Bracket.splitClosing depth body = some (params, rest))
    (h : p ∈ paramTypes params ++ resultTypes rest) : p.length < body.length := by
  obtain ⟨c, _, rfl⟩ := Bracket.splitClosing_eq_some hc
  rw [List.length_append, List.length_cons]
  rcases List.mem_append.1 h with h | h
  · have := length_lt_of_mem_paramTypes h
    omega
  · have := length_lt_of_mem_resultTypes h
    omega

/-- The arguments of a generic type are shorter than the type. -/
theorem length_lt_of_mem_genericForm {v : Vocabulary} {t name behind p : Text}
    (hh : genericHead? t = some (name, behind)) (h : p ∈ (genericForm v name behind).pieces) :
    p.length < t.length := by
  have behind_lt : behind.length < t.length := by
    unfold genericHead? at hh
    split at hh
    · rename_i n rest hr
      split at hh
      · rename_i cs hs
        cases hh
        have h₁ := Text.length_trimLeft_le rest
        have h₂ := congrArg List.length (Name.readDotted?_append hr)
        rw [hs, List.length_cons] at h₁
        rw [List.length_append] at h₂
        omega
      · cases hh
    · cases hh
  unfold genericForm genericArguments? at h
  split at h
  · rename_i arguments ha
    split at ha
    · rename_i content hc
      cases ha
      split at h
      · obtain ⟨a, hm, rfl⟩ := List.mem_map.1 h
        obtain ⟨c, _, rfl⟩ := Bracket.splitClosing_eq_some hc
        have h₁ := Text.length_trim_le a
        have h₂ := length_le_of_mem_splitTop hm
        have h₃ := Text.length_trim_le content
        simp only [List.length_append, List.length_cons, List.length_nil] at behind_lt
        omega
      · cases h
    · cases ha
  · cases h

/-- The pieces of the forms without brackets of their own are shorter than the text. -/
theorem length_lt_of_mem_plainForm {v : Vocabulary} {t p : Text}
    (h : p ∈ (plainForm v t).pieces) : p.length < t.length := by
  unfold plainForm at h
  split at h
  · rename_i name behind hh
    exact length_lt_of_mem_genericForm hh h
  · split at h
    · cases h
    · split at h <;> cases h

/-- The pieces of the forms with a suffix, and of those that follow, are shorter than the text. -/
theorem length_lt_of_mem_suffixForm {v : Vocabulary} {t p : Text}
    (h : p ∈ (suffixForm v t).pieces) : p.length < t.length := by
  unfold suffixForm at h
  split at h
  · rename_i front hr
    rw [Form.pieces, List.mem_singleton] at h
    subst h
    have := congrArg List.length hr
    have := Text.length_trim_le front.reverse
    simp only [List.length_reverse, List.length_cons] at *
    omega
  · rename_i front hr
    rw [Form.pieces, List.mem_singleton] at h
    subst h
    have := congrArg List.length hr
    have := Text.length_trim_le front.reverse
    simp only [List.length_reverse, List.length_cons] at *
    omega
  · split at h
    · rename_i body ho
      split at h
      · rename_i params rest hc
        exact Nat.lt_of_lt_of_le (length_lt_of_mem_function hc h) (length_le_of_opened? ho)
      · cases h
    · exact length_lt_of_mem_plainForm h

/-- The pieces of a union, and of the forms that follow, are shorter than the text. -/
theorem length_lt_of_mem_unionForm {v : Vocabulary} {t p : Text}
    (h : p ∈ (unionForm v t).pieces) : p.length < t.length := by
  unfold unionForm at h
  split at h
  · rename_i a b more hs
    obtain ⟨q, hq, rfl⟩ := List.mem_map.1 h
    have hlt := (length_le_of_mem_join '|' hq).2 (by simp)
    rw [← hs, Bracket.join_splitTop] at hlt
    exact Nat.lt_of_le_of_lt (Text.length_trim_le q) hlt
  · exact length_lt_of_mem_suffixForm h

/-- **Every piece of a form is shorter than the text.** -/
theorem length_lt_of_mem_pieces {v : Vocabulary} {t p : Text} (h : p ∈ (form v t).pieces) :
    p.length < t.length := by
  unfold form at h
  split at h
  · cases h
  · split at h
    · rename_i inner he
      rw [Form.pieces, List.mem_singleton] at h
      subst h
      unfold enclosed? at he
      split at he
      · rename_i cs
        split at he
        · rename_i i hc
          cases he
          obtain ⟨c, _, rfl⟩ := Bracket.splitClosing_eq_some hc
          have := Text.length_trim_le inner
          simp only [List.length_append, List.length_cons, List.length_nil]
          omega
        · cases he
      · cases he
    · split at h
      · rename_i params rest hb
        obtain ⟨body, ho, hc⟩ := Option.bind_eq_some_iff.1 hb
        split at h
        · exact Nat.lt_of_lt_of_le (length_lt_of_mem_function hc h) (length_le_of_opened? ho)
        · exact length_lt_of_mem_unionForm h
      · exact length_lt_of_mem_unionForm h

end LuaAtlas.TypeExpr
