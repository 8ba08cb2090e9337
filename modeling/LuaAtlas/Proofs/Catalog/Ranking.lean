import LuaAtlas.Answer.Search
import LuaAtlas.Proofs.Catalog.Lookup

/-!
# A search agrees with the index

A search goes through all symbols and sorts what it finds by score, name and number, while a lookup
by beginning reads a part of a sorted index.  The two agree: a name that begins with the query
scores at least 15 (`fifteen_le_score_iff`), so these names come first (`filter_append_filter_not`),
and among them the scores follow the order of names, since a text stands before everything that
continues it (`entry_le_of_le`).  Both lists are then sorted by the same order and hold the same
entries, hence are equal (`map_entry_best`).
-/

namespace LuaAtlas

theorem Text.containsText_iff {part t : Text} : containsText part t = true ↔ part <:+: t := by
  induction t with
  | nil => rw [containsText, List.isEmpty_iff, List.infix_nil]
  | cons c cs ih => rw [containsText, Bool.or_eq_true, beginsWith_iff, ih, List.infix_cons_iff]

theorem NameEntry.le_antisymm {a b : NameEntry} (hab : le a b = true) (hba : le b a = true) :
    a = b := by
  rcases le_iff.1 hab with hlt | ⟨hname, hid⟩
  · exact absurd hlt (not_lt_of_le hba)
  · rcases le_iff.1 hba with hlt | ⟨-, hid'⟩
    · exact absurd hlt (not_lt_of_le hab)
    · rw [NameEntry.mk.injEq]
      exact ⟨hname, Nat.le_antisymm hid hid'⟩

/-- Where the test holds of no element behind one of which it does not hold, the elements that pass
it and the others are the two halves of the list. -/
theorem NameIndex.filter_append_filter_not {α : Type} {p : α → Bool} {l : List α}
    (h : l.Pairwise fun a b => p b = true → p a = true) :
    l.filter p ++ l.filter (! p ·) = l := by
  induction l with
  | nil => rfl
  | cons a l ih =>
    obtain ⟨ha, hl⟩ := List.pairwise_cons.1 h
    by_cases hp : p a = true
    · rw [List.filter_cons_of_pos hp, List.filter_cons_of_neg (by simpa using hp),
        List.cons_append, ih hl]
    · have hnone (b : α) (hb : b ∈ l) : ¬ p b = true := fun hpb => hp (ha b hb hpb)
      rw [List.filter_cons_of_neg hp, List.filter_cons_of_pos (by simpa using hp),
        List.filter_eq_nil_iff.2 hnone, List.nil_append,
        List.filter_eq_self.2 fun b hb => by simpa using hnone b hb]

/-! ### The order of ranked symbols -/

namespace Ranking

variable {q : Criteria} {a b c : Symbol}

theorem le_iff : le q a b = true ↔ score q b.name < score q a.name ∨
    score q a.name = score q b.name ∧
      NameEntry.le (NameEntry.ofSymbol a) (NameEntry.ofSymbol b) = true := by
  simp [le, NameEntry.ofSymbol]

theorem le_trans (hab : le q a b = true) (hbc : le q b c = true) : le q a c = true := by
  rw [le_iff] at hab hbc ⊢
  rcases hab with hab | ⟨hab, hle⟩
  · exact Or.inl (by omega)
  · rcases hbc with hbc | ⟨hbc, hle'⟩
    · exact Or.inl (by omega)
    · exact Or.inr ⟨hab.trans hbc, NameEntry.le_trans hle hle'⟩

theorem le_total (q : Criteria) (a b : Symbol) : (le q a b || le q b a) = true := by
  rw [Bool.or_eq_true, le_iff, le_iff]
  have hentries := NameEntry.le_total (NameEntry.ofSymbol a) (NameEntry.ofSymbol b)
  rw [Bool.or_eq_true] at hentries
  rcases Nat.lt_trichotomy (score q a.name) (score q b.name) with h | h | h
  · exact Or.inr (Or.inl h)
  · exact hentries.imp (fun hle => Or.inr ⟨h, hle⟩) fun hle => Or.inr ⟨h.symm, hle⟩
  · exact Or.inl (Or.inl h)

theorem pairwise_rank (q : Criteria) (symbols : List Symbol) :
    (rank q symbols).Pairwise fun a b => le q a b = true := by
  refine List.pairwise_mergeSort (fun a b c => ?_) (fun a b => ?_) symbols
  · exact le_trans
  · exact le_total q a b

/-! ### Scores -/

section Scores

variable (hq : q.regex = false)

include hq

theorem score_eq (name : Text) :
    score q name = if Text.lower q.query = Text.lower name then 20
      else if Text.lower q.query <+: Text.lower name then 15 else 10 := by
  simp only [score, hq, Bool.false_eq_true, ↓reduceIte, beq_iff_eq, Text.beginsWith_iff]

/-- **Beginnings score at least 15.** -/
theorem fifteen_le_score_iff {name : Text} :
    15 ≤ score q name ↔ Text.lower q.query <+: Text.lower name := by
  rw [score_eq hq]
  split_ifs with heq hstart
  · simp [heq]
  · simp [hstart]
  · simp [hstart]

/-- **Among the names that begin with the query, and among the others, the rank is the order of
names.**  A higher score means there that the name is the query itself, and the query stands before
all of its continuations. -/
theorem entry_le_of_le (h : le q a b = true)
    (hsame : Text.lower q.query <+: Text.lower a.name → Text.lower q.query <+: Text.lower b.name) :
    NameEntry.le (NameEntry.ofSymbol a) (NameEntry.ofSymbol b) = true := by
  rcases le_iff.1 h with hlt | ⟨-, hle⟩
  · rw [score_eq hq, score_eq hq] at hlt
    have ha : Text.lower q.query = Text.lower a.name := by
      by_contra hne
      rw [if_neg hne] at hlt
      by_cases hstart : Text.lower q.query <+: Text.lower a.name
      · rw [if_pos hstart, if_pos (hsame hstart)] at hlt
        split_ifs at hlt <;> omega
      · rw [if_neg hstart] at hlt
        split_ifs at hlt <;> omega
    have hb : Text.lower q.query ≠ Text.lower b.name := by
      intro heq
      rw [if_pos heq, if_pos ha] at hlt
      exact absurd hlt (Nat.lt_irrefl _)
    rw [NameEntry.le_iff]
    left
    show Text.lower a.name < Text.lower b.name
    rw [← ha]
    exact lt_of_le_of_ne (not_lt.1 (hsame (ha ▸ List.prefix_rfl)).le) hb
  · exact hle

/-- A part of the ranked symbols stands in the order of names if all of its names begin with the
query, or none does. -/
theorem sorted_map_entry {symbols part : List Symbol} (hpart : part.Sublist (rank q symbols))
    (hsame : ∀ a ∈ part, ∀ b ∈ part,
      Text.lower q.query <+: Text.lower a.name → Text.lower q.query <+: Text.lower b.name) :
    NameIndex.Sorted (part.map NameEntry.ofSymbol) := by
  rw [NameIndex.Sorted, List.pairwise_map]
  refine ((pairwise_rank q symbols).sublist hpart).imp_of_mem fun {a b} ha hb hle => ?_
  exact entry_le_of_le hq hle (hsame a ha b hb)

end Scores

/-- The ranked symbols with a score of at least 15. -/
def best (q : Criteria) (symbols : List Symbol) : List Symbol :=
  (rank q symbols).filter fun s => decide (15 ≤ score q s.name)

/-- The ranked symbols with a score below 15. -/
def others (q : Criteria) (symbols : List Symbol) : List Symbol :=
  (rank q symbols).filter fun s => !decide (15 ≤ score q s.name)

theorem best_append_others (q : Criteria) (symbols : List Symbol) :
    best q symbols ++ others q symbols = rank q symbols := by
  refine NameIndex.filter_append_filter_not ((pairwise_rank q symbols).imp fun {a b} hle hb => ?_)
  rw [decide_eq_true_eq] at hb ⊢
  rcases le_iff.1 hle with hlt | ⟨heq, -⟩ <;> omega

theorem fifteen_le_of_mem_best {symbols : List Symbol} (h : a ∈ best q symbols) :
    15 ≤ score q a.name :=
  of_decide_eq_true (List.mem_filter.1 h).2

theorem lt_fifteen_of_mem_others {symbols : List Symbol} (h : a ∈ others q symbols) :
    score q a.name < 15 := by
  have hnot := (List.mem_filter.1 h).2
  rw [Bool.not_eq_true', decide_eq_false_iff_not] at hnot
  exact Nat.lt_of_not_le hnot

end Ranking

namespace Catalog

variable (c : Catalog) (q : Criteria) (kind : Option SymbolKind)

/-- The symbols of a kind whose name holds the query. -/
def matching (query : Text) (kind : Option SymbolKind) : List Symbol :=
  c.symbols.filter fun s => s.isOf kind && Text.containsText (Text.lower query) (Text.lower s.name)

variable {c q kind}

theorem mem_matching {query : Text} {s : Symbol} : s ∈ c.matching query kind ↔
    s ∈ c.symbols ∧ s.isOf kind = true ∧ Text.lower query <:+: Text.lower s.name := by
  rw [matching, List.mem_filter, Bool.and_eq_true, Text.containsText_iff]

/-- What a beginning finds are the entries of the matching symbols that score at least 15. -/
theorem perm_findByBeginning (hq : q.regex = false) :
    (c.findByBeginning q.query kind).Perm
      (((c.matching q.query kind).filter fun s => decide (15 ≤ Ranking.score q s.name)).map
        NameEntry.ofSymbol) := by
  let begins (e : NameEntry) : Bool := (Text.lower q.query).isPrefixOf e.name
  have hsame (s : Symbol) : (begins (NameEntry.ofSymbol s) && s.isOf kind) =
      (decide (15 ≤ Ranking.score q s.name) && (s.isOf kind &&
        Text.containsText (Text.lower q.query) (Text.lower s.name))) := by
    rw [Bool.eq_iff_iff]
    simp only [Bool.and_eq_true, begins, NameEntry.ofSymbol, List.isPrefixOf_iff_prefix,
      decide_eq_true_eq, Ranking.fifteen_le_score_iff hq, Text.containsText_iff]
    constructor
    · rintro ⟨hstart, hof⟩
      exact ⟨hstart, hof, hstart.isInfix⟩
    · rintro ⟨hstart, hof, -⟩
      exact ⟨hstart, hof⟩
  rw [findByBeginning_eq_filter]
  refine ((perm_namesFor c kind).filter begins).trans (List.Perm.of_eq ?_)
  rw [List.filter_map, List.filter_filter, matching, List.filter_filter]
  exact congrArg (List.map NameEntry.ofSymbol) (List.filter_congr fun s _ => hsame s)

/-- **The best matches are what the index gives for the beginning**, in the same order: both lists
are sorted and hold the same entries. -/
theorem map_entry_best (hq : q.regex = false) {symbols : List Symbol}
    (hsymbols : symbols.Perm (c.matching q.query kind)) :
    (Ranking.best q symbols).map NameEntry.ofSymbol = c.findByBeginning q.query kind := by
  have hbest : NameIndex.Sorted ((Ranking.best q symbols).map NameEntry.ofSymbol) := by
    refine Ranking.sorted_map_entry hq List.filter_sublist fun a _ b hb _ => ?_
    exact (Ranking.fifteen_le_score_iff hq).1 (Ranking.fifteen_le_of_mem_best hb)
  have hfound : NameIndex.Sorted (c.findByBeginning q.query kind) :=
    (sorted_namesFor c kind).sublist (NameIndex.sublist_withBeginning _ _)
  have hperm := ((List.mergeSort_perm symbols (Ranking.le q)).trans hsymbols).filter fun s =>
    decide (15 ≤ Ranking.score q s.name)
  exact ((hperm.map NameEntry.ofSymbol).trans (perm_findByBeginning hq).symm).eq_of_pairwise
    (fun _ _ _ _ => NameEntry.le_antisymm) hbest hfound

/-- **What a search for a text gives**: the best matches and the others, each in its order. -/
structure Ranked (c : Catalog) (query : Text) (kind : Option SymbolKind)
    (best others : List Symbol) : Prop where
  /-- Every symbol of the wanted kinds whose name holds the query is found. -/
  mem_iff : ∀ s, s ∈ best ++ others ↔
    s ∈ c.symbols ∧ s.isOf kind = true ∧ Text.lower query <:+: Text.lower s.name
  /-- None is found twice. -/
  nodup : ((best ++ others).map (·.id)).Nodup
  /-- The best matches are those that score at least 15. -/
  scores : (∀ s ∈ best, 15 ≤ Ranking.score { query } s.name) ∧
    ∀ s ∈ others, Ranking.score { query } s.name < 15
  /-- They are what the index gives for the query as a beginning. -/
  ids_best : best.map (·.id) = (c.findByBeginning query kind).map (·.id)
  /-- The others stand by name in lower case and then by number. -/
  sorted_others : NameIndex.Sorted (others.map NameEntry.ofSymbol)

theorem ranked_of_perm (hq : q.regex = false) (hids : (c.symbols.map (·.id)).Nodup)
    {symbols : List Symbol} (hsymbols : symbols.Perm (c.matching q.query kind)) :
    c.Ranked q.query kind (Ranking.best q symbols) (Ranking.others q symbols) := by
  have hscore (s : Symbol) :
      Ranking.score { query := q.query } s.name = Ranking.score q s.name := by
    rw [Ranking.score_eq rfl, Ranking.score_eq hq]
  have hperm : (Ranking.best q symbols ++ Ranking.others q symbols).Perm
      (c.matching q.query kind) := by
    rw [Ranking.best_append_others]
    exact (List.mergeSort_perm _ _).trans hsymbols
  refine ⟨fun s => ?_, ?_, ⟨fun s hs => ?_, fun s hs => ?_⟩, ?_, ?_⟩
  · rw [hperm.mem_iff, mem_matching]
  · exact ((hperm.map _).nodup_iff).2 (hids.sublist (List.filter_sublist.map _))
  · rw [hscore]
    exact Ranking.fifteen_le_of_mem_best hs
  · rw [hscore]
    exact Ranking.lt_fifteen_of_mem_others hs
  · have hentries := congrArg (List.map NameEntry.id) (map_entry_best hq hsymbols)
    rw [List.map_map] at hentries
    exact hentries
  · refine Ranking.sorted_map_entry hq List.filter_sublist fun a ha _ _ hstart => ?_
    have hlt := Ranking.lt_fifteen_of_mem_others ha
    have hle := (Ranking.fifteen_le_score_iff hq).2 hstart
    omega

/-! ### The search of a catalogue -/

/-- A search by a text finds the symbols that match it, each once. -/
theorem search_text (hq : q.regex = false) (hquery : q.query ≠ [])
    (hkinds : q.kinds = kind.map fun k => [k]) :
    ∃ found, c.search q = .ok found ∧ found.symbols.Perm (c.matching q.query kind) := by
  have hmatcher : q.matcher = .ok fun name =>
      Text.containsText (Text.lower q.query) (Text.lower name) := by
    rw [Criteria.matcher, hq]
    rfl
  have hwanted (s : Symbol) : q.wanted.contains s.kind = s.isOf kind := by
    rw [Criteria.wanted, hkinds]
    cases kind with
    | none => cases hk : s.kind <;> simp [SymbolKind.declared, Symbol.isOf, hk]
    | some k =>
      rw [Bool.eq_iff_iff]
      simp [Symbol.isOf]
  refine ⟨_, by rw [search, List.isEmpty_eq_false_iff.2 hquery, hmatcher]; rfl, ?_⟩
  have hsymbols (holds : Text → Bool) : (c.collect q holds).symbols =
      sortByName Symbol.name Symbol.id (c.symbols.filter fun s => s.isOf kind && holds s.name) := by
    simp only [collect, hwanted]
    split <;> rfl
  rw [hsymbols]
  exact List.mergeSort_perm _ _

end Catalog

/-! ### The answer to a search -/

namespace Answer

/-- A search for a text among the symbols of a kind, or of all declared kinds, with or without a
greatest number of results. -/
def SearchRequest.forText (query : Text) (kind : Option SymbolKind) (members : Bool)
    (limit : Option Nat) : SearchRequest :=
  { query, kind := kind.elim [] (·.label.toList), members, limit := limit.map Int.ofNat }

theorem SearchRequest.kinds?_forText (query : Text) (kind : Option SymbolKind) (members : Bool)
    (limit : Option Nat) :
    (forText query kind members limit).kinds? = some (kind.map fun k => [k]) := by
  cases kind with
  | none => rfl
  | some k =>
    have hlabel : k.label.toList.isEmpty = false := by cases k <;> decide
    simp [kinds?, forText, hlabel, Text.str, SymbolKind.ofLabel?_label]

/-- A limit that is a natural number keeps that many results. -/
theorem limited_ofNat {α : Type} (limit : Option Nat) (xs : List α) :
    Slice.limited (limit.map Int.ofNat) xs = limit.elim xs xs.take := by
  cases limit with
  | none => rfl
  | some n =>
    have hpos : ¬ (Int.ofNat n < 0) := by
      show ¬ ((n : Int) < 0)
      omega
    show xs.take (Slice.offset (Int.ofNat n) xs.length) = xs.take n
    rw [Slice.offset, if_neg hpos]
    exact (List.take_eq_take_min ..).symm

theorem search_eq_ok {vol : Volume} {r : SearchRequest} {kinds : Option (List SymbolKind)}
    {found : Found} (hkinds : r.kinds? = some kinds)
    (hfound : vol.catalog.search (r.criteria kinds) = .ok found) :
    search vol r = .ok (results vol r (r.criteria kinds) found) := by
  rw [search, hkinds]
  simp only [hfound]

/-- The results of an answer are the best symbols up to the limit. -/
theorem field?_results (v : Volume) (r : SearchRequest) (q : Criteria) (found : Found) :
    (results v r q found).field? "results" = some (.arr ((best r q found).map (hit v q))) := by
  rw [results, memberHits]
  cases r.members <;> rfl

/-- The answer to a search for a text lists the ranked symbols up to the limit. -/
theorem search_forText {vol : Volume} {query : Text} {kind : Option SymbolKind} {members : Bool}
    {found : Found}
    (hsearch : vol.catalog.search { query, kinds := kind.map fun k => [k], members } = .ok found)
    (limit : Option Nat) :
    let ranked := Ranking.rank { query, kinds := kind.map fun k => [k], members } found.symbols
    ∃ answer hits, search vol (SearchRequest.forText query kind members limit) = .ok answer ∧
      answer.field? "results" = some (.arr hits) ∧
      hits.map (fun h => (h.field? "id", h.field? "score")) =
        (limit.elim ranked ranked.take).map fun s =>
          (some (.nat s.id), some (.nat (Ranking.score { query } s.name))) := by
  intro ranked
  let q : Criteria := { query, kinds := kind.map fun k => [k], members }
  let r := SearchRequest.forText query kind members limit
  refine ⟨results vol r q found, _, ?_, field?_results vol r q found, ?_⟩
  · exact search_eq_ok (SearchRequest.kinds?_forText query kind members limit) hsearch
  · rw [best, show r.limit = limit.map Int.ofNat from rfl, limited_ofNat, List.map_map]
    rfl

/-- **A search ranks the beginnings as the index has them.**  It finds every symbol of the wanted
kinds whose name holds the query, once.  Those that score 15 or more come first, and they are what
the index gives for the query as a beginning, in the same order; the others follow by name in lower
case and then by number.  A limit keeps the first of them. -/
theorem search_ranked {shelf : Shelf} {name query : Text} {vol : Volume} {v : Vocabulary}
    {texts : List Text} (hvol : shelf.get? name = some vol)
    (hbuilt : vol.catalog = Catalog.ofTexts v texts) (hquery : query ≠ [])
    (kind : Option SymbolKind) (members : Bool) :
    ∃ best others, vol.catalog.Ranked query kind best others ∧
      ∀ limit : Option Nat, ∃ answer hits,
        onVolume shelf name (search · (SearchRequest.forText query kind members limit)) =
          .ok answer ∧
        answer.field? "results" = some (.arr hits) ∧
        hits.map (fun h => (h.field? "id", h.field? "score")) =
          (limit.elim (best ++ others) (best ++ others).take).map fun s =>
            (some (.nat s.id), some (.nat (Ranking.score { query } s.name))) := by
  let q : Criteria := { query, kinds := kind.map fun k => [k], members }
  obtain ⟨found, hsearch, hfound⟩ := Catalog.search_text (c := vol.catalog) (q := q) rfl hquery rfl
  have hids : (vol.catalog.symbols.map (·.id)).Nodup := by
    rw [hbuilt]
    exact (Catalog.wellFormed_draftOf v (texts.map Text.lines)).nodup_ids
  refine ⟨_, _, Catalog.ranked_of_perm (q := q) rfl hids hfound, fun limit => ?_⟩
  rw [Ranking.best_append_others, onVolume, hvol]
  exact search_forText hsearch limit

/-- A query in mixed case on a shelf where one name is the query, one continues it, one holds it
further inside and one does not hold it. -/
theorem search_ranked_items :
    let vol : Volume :=
      { name := "game".toList, builtAt := "now".toList, sources := ["items.lua".toList]
        catalog := Catalog.ofTexts .standard
          ["---@class BigItem\n---@class ItemList\n---@class Item\n---@class Oak".toList] }
    let shelf := ({} : Shelf).put vol
    let query := "iTem".toList
    shelf.get? vol.name = some vol ∧ query ≠ [] ∧
      ∃ best others, vol.catalog.Ranked query none best others ∧
        ∀ limit : Option Nat, ∃ answer hits,
          onVolume shelf vol.name (search · (SearchRequest.forText query none true limit)) =
            .ok answer ∧
          answer.field? "results" = some (.arr hits) ∧
          hits.map (fun h => (h.field? "id", h.field? "score")) =
            (limit.elim (best ++ others) (best ++ others).take).map fun s =>
              (some (.nat s.id), some (.nat (Ranking.score { query } s.name))) := by
  intro vol shelf query
  have hvol : shelf.get? vol.name = some vol := Shelf.get?_put_self {} vol
  have hquery : query ≠ [] := by decide
  exact ⟨hvol, hquery, search_ranked hvol rfl hquery none true⟩

end Answer

end LuaAtlas
