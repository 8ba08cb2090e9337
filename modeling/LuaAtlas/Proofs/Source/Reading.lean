import LuaAtlas.Proofs.Text.Encoding
import LuaAtlas.Source.Reading

/-!
# What sources are read

A path without two dots leads to the file at its own place, which for a relative path is taken from
the working directory on (`FileTree.file?_eq_lookup`).  Whether such a path leads on from directory
to directory need not be asked: where a file stands, there are directories all the way to it.

`Sources.found?` says for one path what it adds to the sources, and reading many paths gives what is
found for each, in order (`Sources.read_eq_ok`).  A file that was written line by line gives its
lines (`Sources.lines_contentOf`).
-/

namespace LuaAtlas

/-! ### Places of files -/

namespace FileTree

variable {t : FileTree} {place parts : List Text} {file : File}

/-- There are directories all the way to a file. -/
theorem isFolder_of_lookup (h : t.files.lookup (place ++ parts) = some file) (hne : parts ≠ []) :
    t.isFolder place = true := by
  obtain ⟨before, after, hfiles, -⟩ := List.lookup_eq_some_iff.1 h
  have hmem : (place ++ parts, file) ∈ t.files := by
    rw [hfiles]
    exact List.mem_append_right _ (List.mem_cons_self ..)
  have hproper : (place.isPrefixOf (place ++ parts) && place != place ++ parts) = true := by
    rw [Bool.and_eq_true, List.isPrefixOf_iff_prefix, bne_iff_ne]
    exact ⟨List.prefix_append .., fun heq => hne (List.self_eq_append_right.1 heq)⟩
  rw [isFolder, Bool.or_eq_true]
  exact Or.inr (List.any_eq_true.2 ⟨_, hmem, hproper⟩)

theorem eq_append_of_walk {place' : List Text} (hdots : ['.', '.'] ∉ parts)
    (h : t.walk place parts = some place') : place' = place ++ parts := by
  induction parts generalizing place with
  | nil =>
    cases h
    exact (List.append_nil _).symm
  | cons part parts ih =>
    rw [List.mem_cons, not_or] at hdots
    rw [walk] at h
    split at h
    · cases h
    · rw [if_neg (Ne.symm hdots.1)] at h
      rw [ih hdots.2 h, List.append_assoc]
      rfl

theorem walk_of_lookup (hdots : ['.', '.'] ∉ parts)
    (h : t.files.lookup (place ++ parts) = some file) :
    t.walk place parts = some (place ++ parts) := by
  induction parts generalizing place with
  | nil => rw [walk, List.append_nil]
  | cons part parts ih =>
    rw [List.mem_cons, not_or] at hdots
    have hfolder := isFolder_of_lookup h (List.cons_ne_nil part parts)
    rw [List.append_cons] at h ⊢
    rw [walk, hfolder, if_neg (by decide), if_neg (Ne.symm hdots.1)]
    exact ih hdots.2 h

/-- **A path without two dots leads to the file at its place**, if there is one. -/
theorem file?_eq_lookup {p : Path} (hdots : ['.', '.'] ∉ p.parts) :
    t.file? p = t.files.lookup (t.base p ++ p.parts) := by
  rw [file?]
  cases h : t.files.lookup (t.base p ++ p.parts) with
  | some file =>
    rw [walk_of_lookup hdots h]
    exact h
  | none =>
    cases hwalk : t.walk (t.base p) p.parts with
    | none => rfl
    | some place =>
      rw [eq_append_of_walk hdots hwalk]
      exact h

end FileTree

/-! ### Reading -/

namespace Sources

variable {s : Surroundings} {path : Text} {paths : List Text} {target : Path}

/-- What a path leads to, with its home directory filled in. -/
def target? (s : Surroundings) (path : Text) : Option Path :=
  ((Path.ofText path).expandHome s.homes).toOption

/-- **The file that a path leads to**: its path in full and its text, unless it is missing, too
large or unreadable. -/
def found? (s : Surroundings) (path : Text) : Option (Text × Text) :=
  (target? s path).bind fun target =>
    ((s.files.file? target).filter fun file => file.size ≤ sizeLimit).bind fun file =>
      (file.read target).toOption.map fun octets => (target.text, contentOf octets)

theorem target?_eq_some_iff :
    target? s path = some target ↔ (Path.ofText path).expandHome s.homes = .ok target := by
  unfold target?
  cases (Path.ofText path).expandHome s.homes with
  | error failure => simp [Except.toOption]
  | ok other => simp [Except.toOption]

theorem found?_eq_some_iff {f : Text × Text} :
    found? s path = some f ↔ ∃ target octets, (Path.ofText path).expandHome s.homes = .ok target ∧
      s.files.file? target = some (.readable octets) ∧ octets.size ≤ sizeLimit ∧
        f = (target.text, contentOf octets) := by
  unfold found?
  constructor
  · intro h
    obtain ⟨target, htarget, h⟩ := Option.bind_eq_some_iff.1 h
    obtain ⟨file, hfile, h⟩ := Option.bind_eq_some_iff.1 h
    obtain ⟨hfile, hlimit⟩ := Option.filter_eq_some_iff.1 hfile
    cases file with
    | readable octets =>
      cases h
      exact ⟨target, octets, target?_eq_some_iff.1 htarget, hfile, of_decide_eq_true hlimit, rfl⟩
    | unreadable size refusal => cases h
  · rintro ⟨target, octets, htarget, hfile, hlimit, rfl⟩
    rw [target?_eq_some_iff.2 htarget, Option.bind_some, hfile, Option.filter_some_pos]
    · rfl
    · exact decide_eq_true hlimit

/-- One path adds what is found for it; there may be a new warning. -/
theorem add_eq (htarget : (Path.ofText path).expandHome s.homes = .ok target) (rest : Sources) :
    ∃ warnings, add s sizeLimit path target rest =
      { paths := ((found? s path).map (·.1)).toList ++ rest.paths
        contents := ((found? s path).map (·.2)).toList ++ rest.contents, warnings } := by
  unfold add found?
  rw [target?_eq_some_iff.2 htarget, Option.bind_some]
  cases s.files.file? target with
  | none => exact ⟨_, rfl⟩
  | some file =>
    by_cases hlimit : sizeLimit < file.size
    · rw [Option.filter_some_neg (by simpa using hlimit)]
      simp only [hlimit, ↓reduceIte]
      exact ⟨_, rfl⟩
    · rw [Option.filter_some_pos (by simpa using hlimit)]
      simp only [hlimit, ↓reduceIte]
      cases file with
      | readable octets => exact ⟨_, rfl⟩
      | unreadable size refusal => exact ⟨_, rfl⟩

/-- Sources are read if every home directory is known: the files that are found, in order, with
their paths. -/
theorem read_eq_ok (h : ∀ path ∈ paths, (target? s path).isSome) :
    ∃ warnings, read s sizeLimit paths =
      .ok { paths := (paths.filterMap (found? s)).map (·.1)
            contents := (paths.filterMap (found? s)).map (·.2), warnings } := by
  induction paths with
  | nil => exact ⟨[], rfl⟩
  | cons path paths ih =>
    obtain ⟨warnings, hrest⟩ := ih fun p hp => h p (List.mem_cons_of_mem _ hp)
    obtain ⟨target, htarget⟩ := Option.isSome_iff_exists.1 (h path (List.mem_cons_self ..))
    rw [target?_eq_some_iff] at htarget
    rw [read, htarget, hrest]
    obtain ⟨warnings', hadd⟩ := add_eq htarget
      ⟨(paths.filterMap (found? s)).map (·.1), (paths.filterMap (found? s)).map (·.2), warnings⟩
    refine ⟨warnings', ?_⟩
    show Except.ok _ = _
    rw [hadd]
    cases hfound : found? s path with
    | none =>
      rw [List.filterMap_cons_none hfound]
      rfl
    | some f =>
      rw [List.filterMap_cons_some hfound]
      rfl

/-- Otherwise reading fails. -/
theorem read_eq_error (h : ¬∀ path ∈ paths, (target? s path).isSome) :
    ∃ failure, read s sizeLimit paths = .error failure := by
  induction paths with
  | nil => exact absurd nofun h
  | cons path paths ih =>
    unfold read
    cases htarget : (Path.ofText path).expandHome s.homes with
    | error failure => exact ⟨failure, rfl⟩
    | ok target =>
      have hhome : (target? s path).isSome := by
        rw [target?_eq_some_iff.2 htarget]
        rfl
      obtain ⟨failure, hrest⟩ := ih fun hall => h fun p hp => by
        rcases List.mem_cons.1 hp with rfl | hp
        · exact hhome
        · exact hall p hp
      exact ⟨failure, by rw [hrest]; rfl⟩

/-- **A file holds lines**: they are written in UTF-8, with a line end between each two. -/
def Holds (octets : ByteArray) (lines : List Text) : Prop :=
  lines ≠ [] ∧ (∀ l ∈ lines, ∀ c ∈ l, Text.isLineBreak c = false) ∧
    ∃ ending ∈ Text.endings, octets = List.utf8Encode (Text.join ending lines)

theorem lines_contentOf {octets : ByteArray} {lines : List Text} (h : Holds octets lines) :
    Text.lines (contentOf octets) = lines := by
  obtain ⟨hne, hclean, ending, hending, rfl⟩ := h
  rw [contentOf, Text.decode_utf8Encode]
  exact Text.lines_unifyNewlines_join hending hclean hne

end Sources

end LuaAtlas
