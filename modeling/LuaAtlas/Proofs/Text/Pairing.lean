import LuaAtlas.Proofs.Text.Nesting

/-!
# Kinds of brackets

The scans of `Bracket` count all four kinds of brackets together, so in a nested text any closing
bracket may close any opening one.  In a *paired* text each is closed by one of its own kind
(`Paired`).  A text that is nested is paired exactly if no closing bracket meets an opening one of
another kind (`kindsAgree`, `paired_of_kindsAgree`).

`splitClosing_eq_some_iff` says what the search for a closing bracket finds: the bracket behind the
longest nested beginning.
-/

namespace LuaAtlas.Bracket

variable {t u inner rest : Text} {stack : List Char}

/-! ### Paired texts -/

/-- The bracket of the same kind that closes an opening one. -/
def partner? : Char → Option Char
  | '<' => some '>'
  | '(' => some ')'
  | '[' => some ']'
  | '{' => some '}'
  | _ => none

/-- **A paired text**: its brackets are closed inside it, each by one of its own kind. -/
inductive Paired : Text → Prop
  | nil : Paired []
  | plain {c : Char} {t : Text} (ho : isOpener c = false) (hc : isCloser c = false)
      (ht : Paired t) : Paired (c :: t)
  | group {o c : Char} {u t : Text} (hoc : partner? o = some c) (hu : Paired u) (ht : Paired t) :
      Paired (o :: (u ++ c :: t))

theorem isOpener_of_partner? {o c : Char} (h : partner? o = some c) :
    isOpener o = true ∧ isCloser c = true := by
  unfold partner? at h
  split at h <;> cases h <;> exact ⟨rfl, rfl⟩

/-- A paired text is nested. -/
theorem Paired.nested (h : Paired t) : Nested (fun _ => True) t := by
  induction h with
  | nil => exact .nil
  | plain ho hc _ ih => exact .plain ho hc trivial ih
  | group hoc _ _ ihu iht =>
    obtain ⟨ho, hc⟩ := isOpener_of_partner? hoc
    exact .group ho hc ihu iht

/-- **Whether every closing bracket of a text has the kind of the opening one that it closes.**  The
brackets that are open in front of the text are given, the innermost first; a bracket that closes
nothing has no kind to agree with. -/
def kindsAgree : List Char → Text → Bool
  | _, [] => true
  | stack, c :: cs =>
    if isOpener c then kindsAgree (c :: stack) cs
    else if isCloser c then
      stack.head?.all (partner? · == some c) && kindsAgree stack.tail cs
    else kindsAgree stack cs

theorem kindsAgree_cons_opener {o : Char} (ho : isOpener o = true) (t : Text) :
    kindsAgree stack (o :: t) = kindsAgree (o :: stack) t := by
  rw [kindsAgree, ite_cond_eq_true _ _ (eq_true ho)]

theorem kindsAgree_cons_closer {o c : Char} (hc : isCloser c = true) (t : Text) :
    kindsAgree (o :: stack) (c :: t) = (partner? o == some c && kindsAgree stack t) := by
  rw [kindsAgree]
  simp [isOpener_of_isCloser hc, hc]

theorem kindsAgree_cons_plain {c : Char} (ho : isOpener c = false) (hc : isCloser c = false)
    (t : Text) : kindsAgree stack (c :: t) = kindsAgree stack t := by
  rw [kindsAgree]
  simp [ho, hc]

/-- The kinds in a paired text agree, whatever is open in front of it. -/
theorem Paired.kindsAgree_append (h : Paired t) (stack : List Char) (rest : Text) :
    kindsAgree stack (t ++ rest) = kindsAgree stack rest := by
  induction h generalizing stack rest with
  | nil => rfl
  | plain ho hc _ ih => rw [List.cons_append, kindsAgree_cons_plain ho hc, ih]
  | group hoc _ _ ihu iht =>
    obtain ⟨ho, hc⟩ := isOpener_of_partner? hoc
    rw [List.cons_append, List.append_assoc, List.cons_append, kindsAgree_cons_opener ho, ihu,
      kindsAgree_cons_closer hc, iht]
    simp [hoc]

/-- **A nested text whose kinds agree is paired.** -/
theorem paired_of_kindsAgree {p : Char → Prop} (h : Nested p t)
    (hk : kindsAgree stack (t ++ rest) = true) :
    Paired t ∧ kindsAgree stack rest = true := by
  induction h generalizing stack rest with
  | nil => exact ⟨.nil, hk⟩
  | plain ho hc _ _ ih =>
    rw [List.cons_append, kindsAgree_cons_plain ho hc] at hk
    obtain ⟨hpaired, hrest⟩ := ih hk
    exact ⟨.plain ho hc hpaired, hrest⟩
  | group ho hc _ _ ihu iht =>
    -- inside the brackets the opening one is on top, so it meets the closing one behind them
    rw [List.cons_append, List.append_assoc, List.cons_append, kindsAgree_cons_opener ho] at hk
    obtain ⟨hu, hk⟩ := ihu hk
    rw [kindsAgree_cons_closer hc, Bool.and_eq_true, beq_iff_eq] at hk
    obtain ⟨hoc, hk⟩ := hk
    obtain ⟨ht, hrest⟩ := iht hk
    exact ⟨.group hoc hu ht, hrest⟩

/-! ### What the search for a closing bracket finds -/

/-- A text that closes as many brackets opened in front of it, and is nested otherwise. -/
def Closes : Nat → Text → Prop
  | 0, t => Nested (fun _ => True) t
  | n + 1, t => ∃ u c rest,
      t = u ++ c :: rest ∧ Nested (fun _ => True) u ∧ isCloser c = true ∧ Closes n rest

theorem Closes.append {n : Nat} (hu : Nested (fun _ => True) u) (ht : Closes n t) :
    Closes n (u ++ t) := by
  cases n with
  | zero => exact hu.append ht
  | succ n =>
    obtain ⟨w, c, rest, rfl, hw, hc, hrest⟩ := ht
    exact ⟨u ++ w, c, rest, by rw [List.append_assoc], hu.append hw, hc, hrest⟩

theorem closes_of_splitClosing {n : Nat} (h : splitClosing (n + 1) t = some (inner, rest)) :
    Closes n inner := by
  induction t generalizing n inner with
  | nil => cases h
  | cons c cs ih =>
    rw [splitClosing] at h
    split at h
    · rename_i hend
      have hn : n = 0 := by
        have := (Bool.and_eq_true_iff.1 hend).2
        rw [beq_iff_eq] at this
        omega
      subst hn
      cases h
      exact .nil
    · rename_i hgo
      obtain ⟨⟨i, r⟩, hr, he⟩ := Option.map_eq_some_iff.1 h
      obtain ⟨rfl, rfl⟩ := Prod.mk.inj he
      by_cases ho : isOpener c = true
      · -- the bracket that this one opens is closed first
        have hstep : step (n + 1) c = ((n + 1 : Nat) : Int) + 1 := by simp [step, ho]
        rw [hstep] at hr
        obtain ⟨u, d, after, rfl, hu, hd, hafter⟩ := ih hr
        have hgroup : Nested (fun _ => True) (c :: (u ++ [d])) := Nested.between ho hd hu
        have := Closes.append hgroup hafter
        simpa using this
      · have ho : isOpener c = false := by simpa using ho
        by_cases hc : isCloser c = true
        · cases n with
          | zero => exact absurd (by simp [hc]) hgo
          | succ n =>
            have hstep : step (((n + 1 : Nat) : Int) + 1) c = (n : Int) + 1 := by
              simp only [step, ho, hc, Bool.false_eq_true, ↓reduceIte]
              omega
            rw [hstep] at hr
            exact ⟨[], c, i, rfl, .nil, hc, ih hr⟩
        · have hc : isCloser c = false := by simpa using hc
          have hstep : step (n + 1) c = (n : Int) + 1 := by simp [step, ho, hc]
          rw [hstep] at hr
          have hplain : Nested (fun _ => True) [c] := .plain ho hc trivial .nil
          exact Closes.append hplain (ih hr)

/-- **The bracket that closes what was opened in front of a text** is the one behind a nested
beginning of it. -/
theorem splitClosing_eq_some_iff :
    splitClosing 1 t = some (inner, rest) ↔
      ∃ c, isCloser c = true ∧ t = inner ++ c :: rest ∧ Nested (fun _ => True) inner := by
  constructor
  · intro h
    obtain ⟨c, hc, ht⟩ := splitClosing_eq_some h
    have hnested : Closes 0 inner := closes_of_splitClosing h
    exact ⟨c, hc, ht, hnested⟩
  · rintro ⟨c, hc, rfl, hnested⟩
    exact splitClosing_nested hnested hc rest

end LuaAtlas.Bracket
