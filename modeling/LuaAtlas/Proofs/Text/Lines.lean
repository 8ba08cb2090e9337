import LuaAtlas.Proofs.Text.Nesting
import Mathlib.Data.List.Chain

/-!
# Texts made of lines

A text is written line by line with `Text.ofLines` and cut into lines again by `Text.lines`, which
also drops the carriage returns at the end of each line.  So the lines come back but for those
(`lines_ofLines`).

Dropping characters at the end and trimming are treated for texts that are put together from parts:
only the last part matters as long as the part in front of it does not end with such a character
(`dropTrailing_append`).
-/

namespace LuaAtlas.Text

variable {t u : Text} {p : Char → Bool}

theorem ne_of_isBlank {c d : Char} (h : isBlank c = true) (hd : isBlank d = false) : c ≠ d := by
  rintro rfl
  rw [h] at hd
  cases hd

/-! ### Ends of texts -/

theorem dropTrailing_append (h : ∀ c, t.getLast? = some c → p c = false) (u : Text) :
    dropTrailing p (t ++ u) = t ++ dropTrailing p u := by
  have hstop : t.reverse.dropWhile p = t.reverse := by
    cases ht : t.reverse with
    | nil => rfl
    | cons c cs =>
      have hlast : t.getLast? = some c := by rw [← List.head?_reverse, ht]; rfl
      rw [List.dropWhile_cons_of_neg (by simp [h c hlast])]
  unfold dropTrailing
  rw [List.reverse_append, List.dropWhile_append]
  split
  · rename_i hempty
    rw [hstop, List.isEmpty_iff.1 hempty]
    simp
  · simp

theorem dropTrailing_eq_self (h : ∀ c, t.getLast? = some c → p c = false) :
    dropTrailing p t = t := by
  have happend := dropTrailing_append h []
  rw [List.append_nil] at happend
  rw [happend]
  exact List.append_nil t

theorem dropTrailing_isPrefix (p : Char → Bool) (t : Text) : dropTrailing p t <+: t :=
  List.rdropWhile_prefix p t

/-- A text is its trimmed form with blanks behind it, once its leading blanks are dropped. -/
theorem exists_trimLeft_eq (t : Text) :
    ∃ blanks, trimLeft t = trim t ++ blanks ∧ ∀ c ∈ blanks, isBlank c = true := by
  refine ⟨((trimLeft t).reverse.takeWhile isBlank).reverse, ?_, fun c hc => ?_⟩
  · show trimLeft t = ((trimLeft t).reverse.dropWhile isBlank).reverse ++ _
    rw [← List.reverse_append, List.takeWhile_append_dropWhile, List.reverse_reverse]
  · exact List.mem_takeWhile_imp (List.mem_reverse.1 hc)

theorem trim_isInfix (t : Text) : trim t <:+: t := by
  obtain ⟨blanks, htrim, -⟩ := exists_trimLeft_eq t
  have hfront : trim t <+: trimLeft t := ⟨blanks, htrim.symm⟩
  exact hfront.isInfix.trans (List.dropWhile_suffix _).isInfix

/-- What is left after trimming has no blanks at its ends. -/
theorem isTrimmed_trim (t : Text) : IsTrimmed (trim t) := by
  constructor
  · intro c hc
    obtain ⟨blanks, htrim, -⟩ := exists_trimLeft_eq t
    have hhead : (trimLeft t).head? = some c := by rw [htrim, List.head?_append, hc]; rfl
    have hdrop := List.head?_dropWhile_not isBlank t
    rw [show (t.dropWhile isBlank).head? = some c from hhead] at hdrop
    simpa using hdrop
  · intro c hc
    have hhead : ((trimLeft t).reverse.dropWhile isBlank).head? = some c := by
      rw [← List.getLast?_reverse]
      exact hc
    have hdrop := List.head?_dropWhile_not isBlank (trimLeft t).reverse
    rw [hhead] at hdrop
    simpa using hdrop

theorem trimLeft_append_of_blank (h : ∀ c ∈ t, isBlank c = true) (u : Text) :
    trimLeft (t ++ u) = trimLeft u := List.dropWhile_append_of_pos h

theorem trimLeft_eq_nil (h : ∀ c ∈ t, isBlank c = true) : trimLeft t = [] :=
  List.dropWhile_eq_nil_iff.2 h

theorem trimLeft_cons {c : Char} (h : isBlank c = false) (t : Text) : trimLeft (c :: t) = c :: t :=
  List.dropWhile_cons_of_neg (by simp [h])

/-- **The first visible character of a text** is where its leading blanks end, whatever follows the
text. -/
theorem exists_trimLeft_append (h : ∃ c ∈ t, isBlank c = false) :
    ∃ blanks c rest, t = blanks ++ c :: rest ∧ isBlank c = false ∧
      ∀ u, trimLeft (t ++ u) = c :: (rest ++ u) := by
  have hsplit := t.takeWhile_append_dropWhile (p := isBlank)
  have hblank : ∀ c ∈ t.takeWhile isBlank, isBlank c = true :=
    fun c hc => List.mem_takeWhile_imp hc
  cases hdrop : t.dropWhile isBlank with
  | nil =>
    obtain ⟨c, hc, hvisible⟩ := h
    rw [List.dropWhile_eq_nil_iff.1 hdrop c hc] at hvisible
    cases hvisible
  | cons c rest =>
    have hvisible : isBlank c = false := by
      have hhead := List.head?_dropWhile_not isBlank t
      rw [hdrop] at hhead
      simpa using hhead
    rw [hdrop] at hsplit
    refine ⟨_, c, rest, hsplit.symm, hvisible, fun u => ?_⟩
    rw [← hsplit, List.append_assoc, trimLeft_append_of_blank hblank, List.cons_append,
      trimLeft_cons hvisible]

/-! ### Places in a text -/

variable {q : Text → Char → Text → Prop} {a : Char}

/-- What holds of every place in a text with a first character. -/
theorem forall_place_cons : (∀ front c back, a :: t = front ++ c :: back → q front c back) ↔
    q [] a t ∧ ∀ front c back, t = front ++ c :: back → q (a :: front) c back := by
  constructor
  · intro h
    exact ⟨h [] a t rfl, fun front c back he => h (a :: front) c back (by rw [he]; rfl)⟩
  · rintro ⟨hfirst, hrest⟩ front c back he
    cases front with
    | nil =>
      obtain ⟨rfl, rfl⟩ := List.cons.inj he
      exact hfirst
    | cons b front =>
      obtain ⟨rfl, htail⟩ := List.cons.inj he
      exact hrest front c back htail

/-- What holds of every place in a text with a last character. -/
theorem forall_place_concat : (∀ front c back, t ++ [a] = front ++ c :: back → q front c back) ↔
    q t a [] ∧ ∀ front c back, t = front ++ c :: back → q front c (back ++ [a]) := by
  induction t generalizing q with
  | nil => simp [forall_place_cons]
  | cons b t ih =>
    rw [List.cons_append, forall_place_cons, ih, forall_place_cons]
    tauto

/-! ### Lines -/

/-- The text with the given lines and as many empty ones behind them. -/
def ofLines (lines : List Text) (empty : Nat) : Text :=
  join ['\n'] (lines ++ List.replicate empty [])

theorem mem_join {separator : Text} {ts : List Text} {c : Char} (h : c ∈ join separator ts) :
    c ∈ separator ∨ ∃ t ∈ ts, c ∈ t := by
  induction ts with
  | nil => cases h
  | cons t ts ih =>
    cases ts with
    | nil => exact Or.inr ⟨t, List.mem_cons_self .., h⟩
    | cons u ts =>
      rw [join, List.append_assoc] at h
      rcases List.mem_append.1 h with h | h
      · exact Or.inr ⟨t, List.mem_cons_self .., h⟩
      · rcases List.mem_append.1 h with h | h
        · exact Or.inl h
        · rcases ih h with hseparator | hpart
          · exact Or.inl hseparator
          · obtain ⟨w, hw, hc⟩ := hpart
            exact Or.inr ⟨w, List.mem_cons_of_mem _ hw, hc⟩

theorem splitOn_join {ls : List Text} (h : ∀ l ∈ ls, '\n' ∉ l) (hne : ls ≠ []) :
    (join ['\n'] ls).splitOn '\n' = ls := by
  induction ls with
  | nil => exact absurd rfl hne
  | cons l ls ih =>
    have hl : '\n' ∉ l := h l (List.mem_cons_self ..)
    cases ls with
    | nil => exact List.splitOn_eq_singleton hl
    | cons l' ls =>
      have hrest := ih (fun m hm => h m (List.mem_cons_of_mem _ hm)) (by simp)
      rw [join, List.append_assoc, List.singleton_append,
        List.splitOn_append_cons_self_of_not_mem hl, hrest]

/-- **The lines of a text made of lines** are these, without the carriage returns at their ends. -/
theorem lines_ofLines {ls : List Text} (h : ∀ l ∈ ls, '\n' ∉ l) (hne : ls ≠ []) (empty : Nat) :
    lines (ofLines ls empty) =
      ls.map (dropTrailing (· == '\r')) ++ List.replicate empty [] := by
  have hall : ∀ l ∈ ls ++ List.replicate empty [], '\n' ∉ l := by
    intro l hl
    rcases List.mem_append.1 hl with hl | hl
    · exact h l hl
    · rw [List.eq_of_mem_replicate hl]
      exact List.not_mem_nil
  rw [lines, ofLines, splitOn_join hall (by simp [hne]), List.map_append, List.map_replicate]
  rfl

/-- The characters that break a line. -/
def isLineBreak (c : Char) : Bool := c == '\n' || c == '\r'

theorem clean_of_isLineBreak {line : Text} (h : ∀ c ∈ line, isLineBreak c = false) :
    '\n' ∉ line ∧ line.getLast? ≠ some '\r' := by
  constructor
  · intro hmem
    cases h _ hmem
  · intro hlast
    cases h _ (List.mem_of_getLast? hlast)

/-- Lines that end with no carriage return come back as they are. -/
theorem lines_ofLines_eq_self {ls : List Text}
    (h : ∀ l ∈ ls, '\n' ∉ l ∧ l.getLast? ≠ some '\r') (hne : ls ≠ []) :
    lines (ofLines ls 0) = ls := by
  have hself : ls.map (dropTrailing (· == '\r')) = ls := by
    have hline : ∀ l ∈ ls, dropTrailing (· == '\r') l = l := by
      intro l hl
      refine dropTrailing_eq_self fun c hc => ?_
      exact beq_eq_false_iff_ne.2 fun he => (h l hl).2 (he ▸ hc)
    rw [List.map_congr_left hline]
    exact List.map_id ls
  rw [lines_ofLines (fun l hl => (h l hl).1) hne, hself]
  exact List.append_nil ls

/-! ### Two dashes -/

/-- No two dashes stand next to each other. -/
def NoDashes (t : Text) : Prop := t.IsChain fun c d => ¬ (c = '-' ∧ d = '-')

theorem noDashes_iff : NoDashes t ↔ containsText "--".toList t = false := by
  show NoDashes t ↔ containsText ['-', '-'] t = false
  induction t with
  | nil => simp [NoDashes, containsText]
  | cons c t ih =>
    rw [containsText, Bool.or_eq_false_iff, ← ih]
    cases t with
    | nil => simp [NoDashes, beginsWith, after?]
    | cons d t =>
      rw [NoDashes, List.isChain_cons_cons, NoDashes, and_congr_left_iff]
      intro _
      by_cases hc : c = '-'
      · by_cases hd : d = '-'
        · simp [hc, hd, beginsWith, after?]
        · simp [hc, hd, beginsWith, after?, Ne.symm hd]
      · simp [hc, beginsWith, after?, Ne.symm hc]

theorem noDashes_of_forall (h : ∀ c ∈ t, c ≠ '-') : NoDashes t := by
  induction t with
  | nil => exact .nil
  | cons c t ih =>
    refine List.isChain_cons.2 ⟨fun d _ hcd => h c (List.mem_cons_self ..) hcd.1, ?_⟩
    exact ih fun d hd => h d (List.mem_cons_of_mem _ hd)

theorem NoDashes.append (ht : NoDashes t) (hu : NoDashes u)
    (h : t.getLast? ≠ some '-' ∨ u.head? ≠ some '-') : NoDashes (t ++ u) := by
  refine List.IsChain.append ht hu ?_
  rintro c hc d hd ⟨rfl, rfl⟩
  rcases h with h | h
  · exact h hc
  · exact h hd

theorem noDashes_join {ts : List Text} (h : ∀ t ∈ ts, NoDashes t) : NoDashes (join [','] ts) := by
  induction ts with
  | nil => exact .nil
  | cons t ts ih =>
    have hfirst := h t (List.mem_cons_self ..)
    cases ts with
    | nil => exact hfirst
    | cons u ts =>
      have hrest := ih fun w hw => h w (List.mem_cons_of_mem _ hw)
      have hcomma : NoDashes [','] := .singleton _
      rw [join, List.append_assoc]
      exact hfirst.append (hcomma.append hrest (Or.inl (by decide))) (Or.inr (by simp))

end LuaAtlas.Text
