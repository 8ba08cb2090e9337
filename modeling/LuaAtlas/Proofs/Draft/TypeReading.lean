import LuaAtlas.Proofs.Draft.Step
import LuaAtlas.Proofs.Symbol.Resolving

/-!
# What reading a type does

A draft reads a type piece by piece, and the pieces read before leave their names in it.  All the
same it changes in two ways only: the names in the type that have no symbol get unknown ones, and
the issues of the type are reported (`readType_eq`).  The names are those that the type mentions in
the end, wherever inside it they were met (`readType_adds_mentioned`).

The text alone decides what is read; the draft only numbers the names.  So a type reads the same in
every draft but for the numbers, and when it is read again later, the numbers are the same too
(`readType_same_everywhere`).
-/

namespace LuaAtlas.Draft

variable {v : Vocabulary} {d d' : Draft} {type : Text} {file line file' line' : Nat}

/-- All that reading a type does. -/
theorem readType_eq (v : Vocabulary) (d : Draft) (type : Text) (file line : Nat) :
    d.readType v type file line =
      let r := TypeExpr.read v (Text.trim type)
      let table : SymbolTable :=
        { symbols := d.table.symbols ++
            SymbolTable.placeholders file line d.table.nextId (d.table.missing r.mentions),
          nextId := d.table.nextId + (d.table.missing r.mentions).length }
      ({ d with table, diagnostics := d.diagnostics ++ r.issues.map (⟨·, file, line⟩) },
        table.sign r.sketch) := by
  rw [readType_eq_read, carryOut, settle, SymbolTable.resolveAll_eq]
  rfl

/-- The names in a type that was read, as the text has them. -/
theorem map_token_readType :
    (d.readType v type file line).2.refs.map (·.token) =
      (TypeExpr.read v (Text.trim type)).sketch.refs := by
  rw [readType_snd, SymbolTable.map_token_sign]

theorem mem_map_token_readType {name : Text} :
    name ∈ (d.readType v type file line).2.refs.map (·.token) ↔
      name ∈ (TypeExpr.read v (Text.trim type)).mentions := by
  rw [map_token_readType, TypeExpr.mem_refs_read_iff]

/-- **Reading a type keeps every name that it resolves and touches nothing else.**  The symbols that
are there stay as they are.  Those that are added are unknown, stand at the given place without
edges, parent or children, and are numbered from the counter on; their names are, each once, those
in the type that stood for no symbol.  Apart from them only issues at the given place are added.
Every name that is met anywhere inside the text is mentioned at the top of the type under the number
of its symbol, and the same holds of the mentions of every type inside. -/
theorem readType_adds_mentioned (v : Vocabulary) (d : Draft) (type : Text) (file line : Nat) :
    let r := d.readType v type file line
    (∃ new : List Symbol,
      r.1.table.symbols = d.table.symbols ++ new ∧
      r.1.table.nextId = d.table.nextId + new.length ∧
      new.map (·.id) = List.range' d.table.nextId new.length ∧
      (∀ s ∈ new, s =
        { id := s.id, name := s.name, file, firstLine := line, lastLine := line, references := [],
          parent := none, children := [], body := .unknown }) ∧
      (new.map (·.name)).Nodup ∧
      ∀ name, name ∈ new.map (·.name) ↔
        name ∈ r.2.refs.map (·.token) ∧ d.table.lookup? name = none) ∧
    (∃ issues : List Issue, r.1 =
      { d with table := r.1.table,
               diagnostics := d.diagnostics ++ issues.map (⟨·, file, line⟩) }) ∧
    (∀ piece, TypeExpr.Inside v (Text.trim type) piece →
      ∀ name ∈ (TypeExpr.read v piece).mentions,
        ∃ s, r.1.table.lookup? name = some s ∧ ⟨name, s.id⟩ ∈ r.2.refs) ∧
    ∀ node, r.2.Contains node → node.refs ⊆ r.2.refs := by
  intro r
  let mentions := (TypeExpr.read v (Text.trim type)).mentions
  let names := d.table.missing mentions
  have hr : r = d.readType v type file line := rfl
  refine ⟨?_, ?_, ?_, ?_⟩
  · refine ⟨SymbolTable.placeholders file line d.table.nextId names, ?_⟩
    have hnames := SymbolTable.map_name_placeholders file line d.table.nextId names
    have hlength : (SymbolTable.placeholders file line d.table.nextId names).length =
        names.length := by
      rw [← List.length_map (·.name), hnames]
    rw [hlength, hnames]
    refine ⟨by rw [hr, readType_eq], by rw [hr, readType_eq],
      SymbolTable.map_id_placeholders .., fun s hs => SymbolTable.eq_of_mem_placeholders hs,
      SymbolTable.nodup_missing .., fun name => ?_⟩
    rw [SymbolTable.mem_missing, mem_map_token_readType]
  · exact ⟨(TypeExpr.read v (Text.trim type)).issues, by rw [hr, readType_eq]⟩
  · intro piece hinside name hname
    have hmention : name ∈ mentions := TypeExpr.mentions_read_subset hinside hname
    have htoken : name ∈ r.2.refs.map (·.token) := mem_map_token_readType.2 hmention
    obtain ⟨reference, href, rfl⟩ := List.mem_map.1 htoken
    obtain ⟨s, hs, hid⟩ := resolves_readType v d type file line reference href
    refine ⟨s, hs, ?_⟩
    rw [hid]
    exact href
  · intro node hnode
    rw [hr, readType_snd] at hnode ⊢
    exact ((TypeExpr.gathers_read v (Text.trim type)).mapRefs _).refs_subset hnode

/-- A type that was read before is read the same again, as long as its names keep their symbols, and
needs no new ones. -/
theorem readType_again {reading : Set Nat} (h : d.table.WellFormed)
    (hext : (d.readType v type file line).1.table.Extends reading d'.table) :
    (d'.readType v type file' line').2 = (d.readType v type file line).2 ∧
      (d'.readType v type file' line').1.table = d'.table := by
  let mentions := (TypeExpr.read v (Text.trim type)).mentions
  let table := d.table.resolveAll mentions file line
  have hwell : table.WellFormed := by
    have hstep : d.table.Extends reading table := h.extends_resolveAll mentions file line
    exact hstep.wellFormed
  have htable : (d.readType v type file line).1.table = table := table_readType v d type file line
  have hpersists : table.PersistsIn d'.table := (htable ▸ hext).persistsIn hwell
  have hknown : ∀ name ∈ mentions, (table.lookup? name).isSome :=
    fun name hname => SymbolTable.isSome_lookup?_resolveAll hname
  have hsame : d'.table.resolveAll mentions file' line' = d'.table :=
    SymbolTable.resolveAll_eq_self
      (fun name hname => hpersists.isSome_lookup? (hknown name hname)) file' line'
  rw [readType_snd, readType_snd, htable, table_readType, hsame]
  constructor
  · exact SymbolTable.sign_read_congr fun name hname => hpersists.idOf_eq (hknown name hname)
  · rfl

/-- **How a type reads does not depend on what was declared before or after.**  In any two drafts it
reads the same but for the numbers, at every depth, and the same issues are reported.  When it is
read again, it reads the same with its numbers and adds no symbol: after whatever further operations
on a table, and after whatever further files of a build. -/
theorem readType_same_everywhere (v : Vocabulary) (type : Text) (file line : Nat) :
    (∀ d d' : Draft,
      let r := d.readType v type file line
      let r' := d'.readType v type file line
      r.2.mapRefs (·.token) = r'.2.mapRefs (·.token) ∧
        ∃ found : List Diagnostic, r.1.diagnostics = d.diagnostics ++ found ∧
          r'.1.diagnostics = d'.diagnostics ++ found) ∧
    (∀ (ops later : List Operation) (file' line' : Nat),
      let r := Draft.readType v { table := SymbolTable.run ops } type file line
      let t := later.foldl SymbolTable.apply r.1.table
      let r' := Draft.readType v { table := t } type file' line'
      r'.2 = r.2 ∧ r'.1.table = t) ∧
    ∀ (files more : List (List Text)) (first file' line' : Nat),
      let r := (enterFiles v 0 {} files).readType v type file line
      let d := r.1.enterFiles v first more
      let r' := d.readType v type file' line'
      r'.2 = r.2 ∧ r'.1.table = d.table := by
  refine ⟨fun d d' => ⟨?_, ?_⟩, fun ops later file' line' => ?_,
    fun files more first file' line' => ?_⟩
  · rw [readType_snd, readType_snd, SymbolTable.mapRefs_token_sign,
      SymbolTable.mapRefs_token_sign]
  · rw [readType_eq_read, readType_eq_read]
    exact ⟨_, rfl, rfl⟩
  · have hrun := SymbolTable.wellFormed_run ops
    have hread : (SymbolTable.run ops).Extends ∅ _ :=
      hrun.extends_apply (.readType v type file line)
    have hlater : SymbolTable.Extends ∅ _ (later.foldl SymbolTable.apply _) :=
      hread.wellFormed.extends_foldl_apply later
    exact readType_again hrun hlater
  · have hfiles : (enterFiles v 0 {} files).table.WellFormed :=
      (extends_enterFiles v 0 SymbolTable.wellFormed_empty files
        fun i _ => Set.mem_univ i).wellFormed
    have hread := (collects_readType v 0 (enterFiles v 0 {} files) type file line).wellFormed hfiles
    exact readType_again hfiles
      (extends_enterFiles v first hread more fun i _ => Set.mem_univ i).table

end LuaAtlas.Draft
