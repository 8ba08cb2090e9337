import LuaAtlas.Text.Bracket
import Mathlib.Data.List.DropRight

/-!
# Nested texts

A text is *nested* if each of its brackets is closed inside it (`Nested`).  Both scans that count
brackets pass over a nested text without change of depth: a cut at a separator puts it in front of
the first part that follows (`splitAt_append`), and the search for a closing bracket goes on behind
it (`splitClosing_append`).  The consequences that readers of types need are
`splitTop_eq_singleton`, `splitTop_join` and `splitClosing_nested`.

Trimming is treated first: a text without blanks at its ends is its own trimmed form
(`Text.trim_eq_self`).
-/

namespace LuaAtlas

/-! ### Texts without blanks at their ends -/

namespace Text

/-- A text whose first and last characters are not blank. -/
def IsTrimmed (t : Text) : Prop :=
  (∀ c, t.head? = some c → isBlank c = false) ∧ ∀ c, t.getLast? = some c → isBlank c = false

theorem trimLeft_eq_self {t : Text} (h : ∀ c, t.head? = some c → isBlank c = false) :
    trimLeft t = t := by
  cases t with
  | nil => rfl
  | cons c cs => rw [trimLeft, List.dropWhile_cons_of_neg (by simp [h c rfl])]

theorem trimRight_eq_self {t : Text} (h : ∀ c, t.getLast? = some c → isBlank c = false) :
    trimRight t = t := by
  have hr : trimLeft t.reverse = t.reverse := by
    apply trimLeft_eq_self
    intro c hc
    rw [List.head?_reverse] at hc
    exact h c hc
  show (trimLeft t.reverse).reverse = t
  rw [hr, List.reverse_reverse]

/-- A text without blanks at its ends is its own trimmed form. -/
theorem trim_eq_self {t : Text} (h : t.IsTrimmed) : trim t = t := by
  rw [trim, trimLeft_eq_self h.1, trimRight_eq_self h.2]

/-- A text with a character that is not blank is not trimmed away. -/
theorem trim_ne_nil {t : Text} {c : Char} (h : c ∈ t) (hc : isBlank c = false) : trim t ≠ [] := by
  intro he
  have hall : ∀ d ∈ trimLeft t, isBlank d = true := List.rdropWhile_eq_nil_iff.1 he
  -- what is left behind the leading blanks starts with no blank, so it is empty
  have hleft : trimLeft t = [] := by
    rw [← List.dropWhile_eq_nil_iff, trimLeft, List.dropWhile_idempotent] at hall
    exact hall
  have := List.dropWhile_eq_nil_iff.1 hleft c h
  rw [hc] at this
  cases this

/-- A blank in front is trimmed away. -/
theorem trim_cons_of_isBlank {c : Char} (hc : isBlank c = true) (t : Text) :
    trim (c :: t) = trim t := by
  rw [trim, trim, trimLeft, List.dropWhile_cons_of_pos hc]
  rfl

theorem isTrimmed_singleton {c : Char} (hc : isBlank c = false) : IsTrimmed [c] := by
  refine ⟨fun d hd => ?_, fun d hd => ?_⟩
  · cases hd
    exact hc
  · cases hd
    exact hc

/-- The first character of one text and the last of another decide whether a text is trimmed. -/
theorem IsTrimmed.append {t u : Text} (ht : t.IsTrimmed) (hu : u.IsTrimmed) :
    IsTrimmed (t ++ u) := by
  refine ⟨fun c hc => ?_, fun c hc => ?_⟩
  · cases t with
    | nil => exact hu.1 c hc
    | cons d t => exact ht.1 c hc
  · rw [List.getLast?_append] at hc
    rcases Option.or_eq_some_iff.1 hc with h | ⟨-, h⟩
    · exact hu.2 c h
    · exact ht.2 c h

/-- What stands between two texts does not matter to its ends. -/
theorem IsTrimmed.append_append {t m u : Text} (ht : t.IsTrimmed) (hu : u.IsTrimmed)
    (ht' : t ≠ []) (hu' : u ≠ []) : IsTrimmed (t ++ (m ++ u)) := by
  refine ⟨fun c hc => ?_, fun c hc => ?_⟩
  · rw [List.head?_append_of_ne_nil _ ht'] at hc
    exact ht.1 c hc
  · rw [← List.append_assoc, List.getLast?_append_of_ne_nil _ hu'] at hc
    exact hu.2 c hc

/-- Two characters that are not blank hide what stands between them. -/
theorem isTrimmed_between {c d : Char} (hc : isBlank c = false) (hd : isBlank d = false)
    (m : Text) : IsTrimmed (c :: (m ++ [d])) :=
  (isTrimmed_singleton hc).append_append (isTrimmed_singleton hd) (by simp) (by simp)

end Text

namespace Bracket

/-! ### Nested texts -/

/-- A bracket that closes does not open. -/
theorem isOpener_of_isCloser {c : Char} (h : isCloser c = true) : isOpener c = false := by
  simp only [isCloser, Bool.or_eq_true, beq_iff_eq] at h
  rcases h with ((h | h) | h) | h <;> subst h <;> rfl

/-- **A nested text**: its brackets are closed inside it, and the characters outside all of them
satisfy `p`.  As in the scans, any closing bracket closes any opening one. -/
inductive Nested : (Char → Prop) → Text → Prop
  | nil {p : Char → Prop} : Nested p []
  | plain {p : Char → Prop} {c : Char} {t : Text} (ho : isOpener c = false)
      (hc : isCloser c = false) (h : p c) (ht : Nested p t) : Nested p (c :: t)
  | group {p : Char → Prop} {o c : Char} {u t : Text} (ho : isOpener o = true)
      (hc : isCloser c = true) (hu : Nested (fun _ => True) u) (ht : Nested p t) :
      Nested p (o :: (u ++ c :: t))

variable {p q : Char → Prop} {t u : Text}

theorem Nested.mono (h : Nested p t) (hpq : ∀ c, p c → q c) : Nested q t := by
  induction h with
  | nil => exact .nil
  | plain ho hc h _ ih => exact .plain ho hc (hpq _ h) (ih hpq)
  | group ho hc hu _ _ ih => exact .group ho hc hu (ih hpq)

theorem Nested.append (ht : Nested p t) (hu : Nested p u) : Nested p (t ++ u) := by
  induction ht with
  | nil => exact hu
  | plain ho hc h _ ih => exact .plain ho hc h (ih hu)
  | group ho hc hv _ _ ih =>
    rw [List.cons_append, List.append_assoc, List.cons_append]
    exact .group ho hc hv (ih hu)

/-- A text without brackets is nested. -/
theorem Nested.of_forall (h : ∀ c ∈ t, isOpener c = false ∧ isCloser c = false ∧ p c) :
    Nested p t := by
  induction t with
  | nil => exact .nil
  | cons c t ih =>
    obtain ⟨ho, hc, hp⟩ := h c (List.mem_cons_self ..)
    exact .plain ho hc hp (ih fun d hd => h d (List.mem_cons_of_mem _ hd))

/-- A nested text between brackets is nested, whatever stands in it. -/
theorem Nested.between {o c : Char} (ho : isOpener o = true) (hc : isCloser c = true)
    (hu : Nested q u) : Nested p (o :: (u ++ [c])) :=
  .group ho hc (hu.mono fun _ _ => trivial) .nil

/-- Nested texts with a character between each two are nested. -/
theorem Nested.join {sep : Text} {ts : List Text} (hs : Nested p sep)
    (h : ∀ t ∈ ts, Nested p t) : Nested p (Text.join sep ts) := by
  induction ts with
  | nil => exact .nil
  | cons t ts ih =>
    have htail := ih fun u hu => h u (List.mem_cons_of_mem _ hu)
    have hhead := h t (List.mem_cons_self ..)
    cases ts with
    | nil => exact hhead
    | cons u us => exact (hhead.append hs).append htail

/-! ### Cuts pass over nested texts -/

/-- A text is put in front of the first part. -/
def prependFirst (t : Text) : List Text → List Text
  | [] => [t]
  | p :: ps => (t ++ p) :: ps

theorem consFirst_prependFirst (c : Char) (t : Text) {ps : List Text} (h : ps ≠ []) :
    consFirst c (prependFirst t ps) = prependFirst (c :: t) ps := by
  cases ps with
  | nil => exact absurd rfl h
  | cons p ps => rfl

theorem prependFirst_append (t u : Text) {ps : List Text} (h : ps ≠ []) :
    prependFirst t (prependFirst u ps) = prependFirst (t ++ u) ps := by
  cases ps with
  | nil => exact absurd rfl h
  | cons p ps => simp [prependFirst]

/-- **A cut passes over a nested text**: at depth zero if the separator does not stand outside its
brackets, and at any greater depth. -/
theorem splitAt_append {separator : Char} {depth : Int} (h : Nested p t) (hd : 0 ≤ depth)
    (hp : depth = 0 → ∀ c, p c → c ≠ separator) (rest : Text) :
    splitAt separator depth (t ++ rest) = prependFirst t (splitAt separator depth rest) := by
  induction h generalizing depth rest with
  | nil =>
    cases hr : splitAt separator depth rest with
    | nil => exact absurd hr (splitAt_ne_nil _ _ _)
    | cons => exact hr
  | @plain p c t ho hc h _ ih =>
    have hsep : (c == separator && depth == 0) = false := by
      by_cases hz : depth = 0
      · simp [hp hz c h]
      · simp [hz]
    rw [List.cons_append, splitAt]
    simp only [ho, hc, hsep, Bool.false_eq_true, ↓reduceIte]
    rw [ih hd hp, consFirst_prependFirst _ _ (splitAt_ne_nil _ _ _)]
  | @group p o c u t ho hc _ _ ihu iht =>
    -- inside the brackets the depth is positive, so no separator divides there
    have inside : splitAt separator (depth + 1) (u ++ c :: (t ++ rest)) =
        prependFirst u (splitAt separator (depth + 1) (c :: (t ++ rest))) :=
      ihu (by omega) (by omega) _
    rw [List.cons_append, List.append_assoc, List.cons_append, splitAt]
    simp only [ho, ↓reduceIte]
    rw [inside, splitAt]
    simp only [isOpener_of_isCloser hc, hc, Bool.false_eq_true, ↓reduceIte]
    rw [Int.add_sub_cancel, iht hd hp, consFirst_prependFirst _ _ (splitAt_ne_nil _ _ _),
      prependFirst_append _ _ (splitAt_ne_nil _ _ _),
      consFirst_prependFirst _ _ (splitAt_ne_nil _ _ _)]

/-- A character other than the separator goes to the first part. -/
theorem exists_splitTop_cons {separator c : Char} (hc : c ≠ separator) (cs : Text) :
    ∃ part parts, splitTop separator (c :: cs) = (c :: part) :: parts := by
  have keep (depth : Int) : ∃ part parts,
      consFirst c (splitAt separator depth cs) = (c :: part) :: parts := by
    cases hs : splitAt separator depth cs with
    | nil => exact absurd hs (splitAt_ne_nil _ _ _)
    | cons part parts => exact ⟨part, parts, rfl⟩
  rw [splitTop, splitAt]
  simp only [beq_eq_false_iff_ne.2 hc, Bool.false_and, Bool.false_eq_true, ↓reduceIte]
  split
  · exact keep _
  · split
    · exact keep _
    · exact keep _

/-- A nested text without the separator outside its brackets is its only part. -/
theorem splitTop_eq_singleton {separator : Char} (h : Nested (· ≠ separator) t) :
    splitTop separator t = [t] := by
  have hcut : splitAt separator 0 (t ++ []) = prependFirst t (splitAt separator 0 []) :=
    splitAt_append h (Int.le_refl _) (fun _ c hc => hc) []
  rw [List.append_nil] at hcut
  rw [splitTop, hcut]
  simp [splitAt, prependFirst]

/-- A nested text in front of a separator is the first part. -/
theorem splitTop_append_cons {separator : Char} (h : Nested (· ≠ separator) t)
    (ho : isOpener separator = false) (hc : isCloser separator = false) (rest : Text) :
    splitTop separator (t ++ separator :: rest) = t :: splitTop separator rest := by
  rw [splitTop, splitAt_append h (Int.le_refl _) (fun _ c hc => hc), splitAt]
  simp [ho, hc, prependFirst, splitTop]

/-- **The parts of a joined text**: texts joined by the separator and a nested filler come back,
with the filler in front of all but the first. -/
theorem splitTop_join {separator : Char} {filler : Text} (hf : Nested (· ≠ separator) filler)
    (ho : isOpener separator = false) (hc : isCloser separator = false) {ts : List Text}
    (h : ∀ t ∈ ts, Nested (· ≠ separator) t) (t : Text) (ht : Nested (· ≠ separator) t) :
    splitTop separator (Text.join (separator :: filler) (t :: ts)) =
      t :: ts.map (filler ++ ·) := by
  induction ts generalizing t with
  | nil => exact splitTop_eq_singleton ht
  | cons u us ih =>
    have hu := h u (List.mem_cons_self ..)
    have htail := ih (fun v hv => h v (List.mem_cons_of_mem _ hv)) u hu
    rw [Text.join, List.append_assoc, List.cons_append, splitTop_append_cons ht ho hc]
    rw [splitTop, splitAt_append hf (Int.le_refl _) (fun _ c hc => hc), ← splitTop, htail]
    rfl

/-! ### The search for a closing bracket passes over nested texts -/

/-- The search for the closing bracket goes on behind a nested text. -/
theorem splitClosing_append {depth : Int} (h : Nested p t) (hd : 1 ≤ depth) (rest : Text) :
    splitClosing depth (t ++ rest) =
      (splitClosing depth rest).map fun r => (t ++ r.1, r.2) := by
  induction h generalizing depth rest with
  | nil => simp
  | @plain p c t ho hc _ _ ih =>
    rw [List.cons_append, splitClosing]
    simp only [hc, Bool.false_and, Bool.false_eq_true, ↓reduceIte, step, ho]
    rw [ih hd, Option.map_map]
    rfl
  | @group p o c u t ho hc _ _ ihu iht =>
    have hoc : isCloser o = false := by
      cases hb : isCloser o with
      | false => rfl
      | true => rw [isOpener_of_isCloser hb] at ho; cases ho
    have hne : (depth + 1 == 1) = false := by simp; omega
    rw [List.cons_append, List.append_assoc, List.cons_append, splitClosing]
    simp only [hoc, Bool.false_and, Bool.false_eq_true, ↓reduceIte, step, ho]
    rw [ihu (by omega), splitClosing]
    simp only [hc, hne, Bool.and_false, Bool.false_eq_true, ↓reduceIte, step,
      isOpener_of_isCloser hc, Int.add_sub_cancel]
    rw [iht hd, Option.map_map, Option.map_map, Option.map_map]
    refine congrArg (Option.map · _) (funext fun r => ?_)
    simp

/-- **The bracket behind a nested text closes what was opened before it.** -/
theorem splitClosing_nested {c : Char} (h : Nested p t) (hc : isCloser c = true) (rest : Text) :
    splitClosing 1 (t ++ c :: rest) = some (t, rest) := by
  rw [splitClosing_append h (Int.le_refl _), splitClosing]
  simp [hc]

end Bracket

end LuaAtlas
