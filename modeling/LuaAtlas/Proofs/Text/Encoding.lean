import LuaAtlas.Proofs.Text.Lines
import LuaAtlas.Text.Decoding

/-!
# Texts written to octets and read again

A text that is written in UTF-8 reads back as it was (`decode_utf8Encode`).  The decoder holds an
unfinished character as its bits so far, its outstanding octets and the bounds of the next one.  The
first octet of a character of two, three or four octets starts it (`start_two`, `start_three`,
`start_four`); the bounds are those that leave out long forms, surrogates and numbers past the last
character, so the second octet of a character that exists is within them.  Each further octet adds
six bits, and the last one makes the character.

Lines that are written with one of the three line ends read back as they were, whichever it was
(`lines_unifyNewlines_join`).
-/

namespace LuaAtlas.Text

/-! ### One character -/

namespace Decoder

variable {output : List Char} {p : Pending} {n m : Nat}

theorem start_one (h : n < 128) : start output n = ⟨none, Char.ofNat n :: output⟩ := by
  unfold start
  rw [if_pos h]

theorem start_two (hlow : 2 ≤ n) (hhigh : n < 32) :
    start output (n + 192) = ⟨some ⟨1, 128, 191, n⟩, output⟩ := by
  unfold start
  rw [if_neg (by omega), if_neg (by omega), if_pos (by omega), Nat.add_sub_cancel]

/-- The first of three octets, for a second one that makes neither a long form nor a surrogate. -/
theorem start_three (output : List Char) (hn : n < 16) (hm : m < 64) (hlow : 32 ≤ n * 64 + m)
    (hgap : n * 64 + m < 864 ∨ 896 ≤ n * 64 + m) :
    ∃ p, start output (n + 224) = ⟨some p, output⟩ ∧ p.owed = 2 ∧ p.bits = n ∧
      p.low ≤ m + 128 ∧ m + 128 ≤ p.high := by
  unfold start
  rw [if_neg (by omega), if_neg (by omega), if_neg (by omega)]
  by_cases hfirst : n = 0
  · refine ⟨_, if_pos (by omega), rfl, ?_, ?_, ?_⟩ <;> dsimp only <;> omega
  · rw [if_neg (by omega)]
    by_cases hsurrogate : n = 13
    · refine ⟨_, if_pos (by omega), rfl, ?_, ?_, ?_⟩ <;> dsimp only <;> omega
    · rw [if_neg (by omega), if_pos (by omega)]
      refine ⟨_, rfl, rfl, ?_, ?_, ?_⟩ <;> dsimp only <;> omega

/-- The first of four octets, for a second one that makes neither a long form nor a number past the
last character. -/
theorem start_four (output : List Char) (hm : m < 64) (hlow : 16 ≤ n * 64 + m)
    (hhigh : n * 64 + m < 272) :
    ∃ p, start output (n + 240) = ⟨some p, output⟩ ∧ p.owed = 3 ∧ p.bits = n ∧
      p.low ≤ m + 128 ∧ m + 128 ≤ p.high := by
  unfold start
  rw [if_neg (by omega), if_neg (by omega), if_neg (by omega), if_neg (by omega),
    if_neg (by omega), if_neg (by omega)]
  by_cases hfirst : n = 0
  · refine ⟨_, if_pos (by omega), rfl, ?_, ?_, ?_⟩ <;> dsimp only <;> omega
  · rw [if_neg (by omega)]
    by_cases hlast : n < 4
    · refine ⟨_, if_pos (by omega), rfl, ?_, ?_, ?_⟩ <;> dsimp only <;> omega
    · rw [if_neg (by omega), if_pos (by omega)]
      refine ⟨_, rfl, rfl, ?_, ?_, ?_⟩ <;> dsimp only <;> omega

theorem toNat_ofNat_add (hn : n + m < 256) : (UInt8.ofNat (n + m)).toNat = n + m := by
  rw [UInt8.toNat_ofNat']
  exact Nat.mod_eq_of_lt hn

/-- An octet where no character is unfinished begins one. -/
theorem step_start (hn : n + m < 256) :
    step ⟨none, output⟩ (UInt8.ofNat (n + m)) = start output (n + m) := by
  show start output (UInt8.ofNat (n + m)).toNat = _
  rw [toNat_ofNat_add hn]

/-- An octet within the bounds adds six bits, and the last one makes the character. -/
theorem step_within (hm : m < 64) (hlow : p.low ≤ m + 128) (hhigh : m + 128 ≤ p.high) :
    step ⟨some p, output⟩ (UInt8.ofNat (m + 128)) =
      if p.owed ≤ 1 then ⟨none, Char.ofNat (p.bits * 64 + m) :: output⟩
      else ⟨some ⟨p.owed - 1, 128, 191, p.bits * 64 + m⟩, output⟩ := by
  have hwithin : (decide (p.low ≤ m + 128) && decide (m + 128 ≤ p.high)) = true := by
    rw [Bool.and_eq_true, decide_eq_true_iff, decide_eq_true_iff]
    exact ⟨hlow, hhigh⟩
  unfold step
  simp only
  rw [toNat_ofNat_add (by omega), if_pos hwithin, Nat.add_sub_cancel]

theorem step_more (howed : 1 < p.owed) (hm : m < 64) (hlow : p.low ≤ m + 128)
    (hhigh : m + 128 ≤ p.high) :
    step ⟨some p, output⟩ (UInt8.ofNat (m + 128)) =
      ⟨some ⟨p.owed - 1, 128, 191, p.bits * 64 + m⟩, output⟩ := by
  rw [step_within hm hlow hhigh, if_neg (by omega)]

theorem step_last (howed : p.owed = 1) (hm : m < 64) (hlow : p.low ≤ m + 128)
    (hhigh : m + 128 ≤ p.high) :
    step ⟨some p, output⟩ (UInt8.ofNat (m + 128)) =
      ⟨none, Char.ofNat (p.bits * 64 + m) :: output⟩ := by
  rw [step_within hm hlow hhigh, if_pos (by omega)]

/-- **The octets of a character give the character back.** -/
theorem foldl_step_utf8EncodeChar (c : Char) (output : List Char) :
    (String.utf8EncodeChar c).foldl step ⟨none, output⟩ = ⟨none, c :: output⟩ := by
  have hvalid : c.val.toNat < 0xD800 ∨ 0xDFFF < c.val.toNat ∧ c.val.toNat < 0x110000 := c.valid
  have hchar : Char.ofNat c.val.toNat = c := Char.ofNat_toNat c
  unfold String.utf8EncodeChar
  generalize c.val.toNat = v at hvalid hchar ⊢
  dsimp only
  -- a character has as many octets as its number needs
  split
  · rw [List.foldl_cons, List.foldl_nil, ← Nat.add_zero v, step_start (by omega),
      start_one (by omega), Nat.add_zero, hchar]
  split
  · rw [List.foldl_cons, List.foldl_cons, List.foldl_nil, step_start (by omega),
      start_two (by omega) (by omega),
      step_last rfl (by omega) (by dsimp only; omega) (by dsimp only; omega)]
    rw [show v / 64 % 32 * 64 + v % 64 = v by omega, hchar]
  split
  · obtain ⟨p, hstart, howed, hbits, hlow, hhigh⟩ :=
      start_three (n := v / 4096 % 16) (m := v / 64 % 64) output (by omega) (by omega) (by omega)
        (by omega)
    rw [List.foldl_cons, List.foldl_cons, List.foldl_cons, List.foldl_nil, step_start (by omega),
      hstart, step_more (by omega) (by omega) hlow hhigh,
      step_last (by dsimp only; omega) (by omega) (by dsimp only; omega) (by dsimp only; omega)]
    dsimp only
    rw [hbits, show (v / 4096 % 16 * 64 + v / 64 % 64) * 64 + v % 64 = v by omega, hchar]
  · obtain ⟨p, hstart, howed, hbits, hlow, hhigh⟩ :=
      start_four (n := v / 262144 % 8) (m := v / 4096 % 64) output (by omega) (by omega)
        (by omega)
    rw [List.foldl_cons, List.foldl_cons, List.foldl_cons, List.foldl_cons, List.foldl_nil,
      step_start (by omega), hstart, step_more (by omega) (by omega) hlow hhigh,
      step_more (by dsimp only; omega) (by omega) (by dsimp only; omega) (by dsimp only; omega),
      step_last (by dsimp only; omega) (by omega) (by dsimp only; omega) (by dsimp only; omega)]
    dsimp only
    rw [hbits, show ((v / 262144 % 8 * 64 + v / 4096 % 64) * 64 + v / 64 % 64) * 64 + v % 64 = v by
      omega, hchar]

end Decoder

/-! ### Texts -/

/-- **A text in UTF-8 reads back as it was.** -/
theorem decode_utf8Encode (t : Text) : decode (List.utf8Encode t).data.toList = t := by
  have hfold (output : List Char) :
      (t.flatMap String.utf8EncodeChar).foldl Decoder.step ⟨none, output⟩ =
        ⟨none, t.reverse ++ output⟩ := by
    induction t generalizing output with
    | nil => rfl
    | cons c t ih =>
      rw [List.flatMap_cons, List.foldl_append, Decoder.foldl_step_utf8EncodeChar, ih,
        List.reverse_cons, List.append_assoc]
      rfl
  rw [List.utf8Encode, List.data_toByteArray, decode, hfold]
  show (t.reverse ++ []).reverse = t
  rw [List.append_nil, List.reverse_reverse]

/-! ### Lines -/

/-- The three ways to end a line. -/
def endings : List Text := [['\n'], ['\r', '\n'], ['\r']]

variable {line t : Text} {c : Char}

/-- What was read before stays in front. -/
theorem unifyNewlinesFrom_append (read before t : Text) :
    unifyNewlinesFrom (read ++ before) t = before.reverse ++ unifyNewlinesFrom read t := by
  fun_induction unifyNewlinesFrom read t with
  | case1 read => exact List.reverse_append
  | case2 read cs ih => exact ih
  | case3 read c cs hpair ih =>
    rw [unifyNewlinesFrom]
    · exact ih
    · exact hpair

theorem unifyNewlines_cons (hpair : c = '\r' → t.head? ≠ some '\n') :
    unifyNewlines (c :: t) = (if c == '\r' then '\n' else c) :: unifyNewlines t := by
  rw [unifyNewlines, unifyNewlinesFrom]
  · exact unifyNewlinesFrom_append [] [_] t
  · rintro cs hc rfl
    exact hpair hc rfl

theorem unifyNewlines_append (h : '\r' ∉ line) (t : Text) :
    unifyNewlines (line ++ t) = line ++ unifyNewlines t := by
  induction line with
  | nil => rfl
  | cons c line ih =>
    have hc : c ≠ '\r' := fun he => h (he ▸ List.mem_cons_self ..)
    rw [List.cons_append, unifyNewlines_cons fun he => absurd he hc,
      ih fun hmem => h (List.mem_cons_of_mem _ hmem), if_neg (by simpa using hc)]
    rfl

/-- Whatever ends a line, a line feed ends it then; a carriage return must not stand before a line
feed by chance. -/
theorem unifyNewlines_ending {ending : Text} (hending : ending ∈ endings)
    (hpair : ending = ['\r'] → t.head? ≠ some '\n') :
    unifyNewlines (ending ++ t) = '\n' :: unifyNewlines t := by
  simp only [endings, List.mem_cons, List.not_mem_nil, or_false] at hending
  rcases hending with rfl | rfl | rfl
  · exact unifyNewlines_cons (by rintro ⟨⟩)
  · exact unifyNewlinesFrom_append [] ['\n'] t
  · exact unifyNewlines_cons fun _ => hpair rfl

theorem unifyNewlines_join {ending : Text} (hending : ending ∈ endings) {ls : List Text}
    (h : ∀ l ∈ ls, ∀ c ∈ l, isLineBreak c = false) :
    unifyNewlines (join ending ls) = join ['\n'] ls := by
  have hclean {l : Text} (hl : l ∈ ls) {c : Char} (hc : isLineBreak c = true) : c ∉ l :=
    fun hmem => Bool.false_ne_true ((h l hl c hmem).symm.trans hc)
  induction ls with
  | nil => rfl
  | cons l ls ih =>
    have hl := List.mem_cons_self (a := l) (l := ls)
    cases ls with
    | nil =>
      have happend := unifyNewlines_append (hclean hl (c := '\r') rfl) []
      rwa [List.append_nil, show unifyNewlines [] = [] from rfl, List.append_nil] at happend
    | cons u us =>
      have htail : ∀ l ∈ u :: us, ∀ c ∈ l, isLineBreak c = false :=
        fun l hl => h l (List.mem_cons_of_mem _ hl)
      rw [join, join, List.append_assoc, unifyNewlines_append (hclean hl rfl),
        unifyNewlines_ending hending, ih htail fun hl => hclean (List.mem_cons_of_mem _ hl),
        List.append_assoc]
      · rfl
      -- no line feed stands behind a lone carriage return, be it in a line or as another line end
      · rintro rfl hhead
        rcases mem_join (List.mem_of_head? hhead) with hmem | ⟨w, hw, hmem⟩
        · exact absurd hmem (by decide)
        · exact hclean (List.mem_cons_of_mem l hw) rfl hmem

/-- **Lines read back as they were written**, whatever ends them. -/
theorem lines_unifyNewlines_join {ending : Text} (hending : ending ∈ endings) {ls : List Text}
    (h : ∀ l ∈ ls, ∀ c ∈ l, isLineBreak c = false) (hne : ls ≠ []) :
    lines (unifyNewlines (join ending ls)) = ls := by
  have hlines := lines_ofLines_eq_self (fun l hl => clean_of_isLineBreak (h l hl)) hne
  rw [ofLines, List.replicate_zero, List.append_nil] at hlines
  rw [unifyNewlines_join hending h, hlines]

end LuaAtlas.Text
