import LuaAtlas.Proofs.Source.Reading
import LuaAtlas.Service.Call
import Mathlib.Data.List.Induction

/-!
# Calls one after the other

A session is a list of requests, answered one after the other in surroundings of which only the time
changes.  `Request.volume?` says, without the service, what a request builds: the catalogue of the
files that its paths lead to, if there are any.  `serve_eq` compares it with the service: a request
that builds something puts it on the shelf, and any other request leaves the shelf as it is.

The shelf after a session follows by induction along it (`get?_shelfAfter`, `names_shelfAfter`):
under each name stands what was built last under it, and the names stand in the order of their first
builds.  `shelfAfter_spec` puts this together with what the tools answer.
-/

namespace LuaAtlas

/-! ### Shelves -/

namespace Shelf

/-- A name on the shelf keeps its place, and a new one comes last. -/
theorem names_put (s : Shelf) (v : Volume) :
    (s.put v).names = if v.name ∈ s.names then s.names else s.names ++ [v.name] := by
  unfold put names
  induction s.volumes with
  | nil => rfl
  | cons u us ih =>
    rw [putAmong]
    by_cases hname : u.name = v.name
    · simp [hname]
    · have hne : ¬v.name = u.name := Ne.symm hname
      simp only [beq_iff_eq, hname, ↓reduceIte, List.map_cons, List.mem_cons, hne, false_or] at ih ⊢
      rw [ih]
      split <;> rfl

theorem get?_put (s : Shelf) (v : Volume) (name : Text) :
    (s.put v).get? name = if v.name = name then some v else s.get? name := by
  split
  · rename_i h
    rw [← h]
    exact get?_put_self s v
  · rename_i h
    exact get?_put_of_ne s v h

end Shelf

namespace Service

/-! ### Requests -/

/-- A call of a tool at some time. -/
structure Request where
  now : Text
  tool : String
  arguments : Json

namespace Request

/-- A request is answered: the shelf after it, and the answer. -/
def serve (s : Surroundings) (shelf : Shelf) (r : Request) : Shelf × Json :=
  call { s with now := r.now } shelf r.tool r.arguments

/-- The files that the paths of a request lead to, in order. -/
def found (s : Surroundings) (r : Request) : List (Text × Text) :=
  (pathsArgument s r.arguments).filterMap (Sources.found? s)

/-- Whether a request asks for a build that can be made: all home directories are known, and some
file is found. -/
def Builds (s : Surroundings) (r : Request) : Prop :=
  r.tool = Tool.buildDatabase.name ∧
    (∀ path ∈ pathsArgument s r.arguments, (Sources.target? s path).isSome) ∧ r.found s ≠ []

instance (s : Surroundings) (r : Request) : Decidable (r.Builds s) :=
  inferInstanceAs (Decidable (_ ∧ _ ∧ _))

/-- **What a request builds**: the catalogue of the files that are found, each with its path. -/
def volume? (s : Surroundings) (r : Request) : Option Volume :=
  if r.Builds s then
    some { name := nameArgument "name" r.arguments, builtAt := r.now
           sources := (r.found s).map (·.1)
           catalog := Catalog.ofTexts .standard ((r.found s).map (·.2)) }
  else none

variable {s : Surroundings} {shelf : Shelf} {r : Request} {v : Volume}

theorem volume?_eq_none_iff : r.volume? s = none ↔ ¬r.Builds s := by
  unfold volume?
  split
  · rename_i h
    simp [h]
  · rename_i h
    simp [h]

theorem fields_of_volume?_eq_some (h : r.volume? s = some v) :
    v.name = nameArgument "name" r.arguments ∧ v.sources = (r.found s).map (·.1) ∧
      v.catalog = Catalog.ofTexts .standard ((r.found s).map (·.2)) := by
  unfold volume? at h
  split at h
  · cases h
    exact ⟨rfl, rfl, rfl⟩
  · cases h

/-- Every file that is found belongs to a path of the request, whose text in full it has. -/
theorem exists_path_of_mem_found {f : Text × Text} (h : f ∈ r.found s) :
    ∃ path ∈ pathsArgument s r.arguments, ∃ target octets,
      (Path.ofText path).expandHome s.homes = .ok target ∧
        s.files.file? target = some (.readable octets) ∧ octets.size ≤ Sources.sizeLimit ∧
        f = (target.text, Sources.contentOf octets) := by
  obtain ⟨path, hpath, hfound⟩ := List.mem_filterMap.1 h
  exact ⟨path, hpath, Sources.found?_eq_some_iff.1 hfound⟩

/-! ### Answers -/

theorem serve_buildDatabase (htool : r.tool = Tool.buildDatabase.name) :
    r.serve s shelf =
      match Answer.build { s with now := r.now } shelf (pathsArgument s r.arguments)
          (nameArgument "name" r.arguments) with
      | .ok answer => answer
      | .error failure => (shelf, Answer.error failure.message []) := by
  unfold serve call
  rw [htool, Tool.ofName?_name]
  rfl

/-- A build that was made counts as a success. -/
theorem success_buildReport (v : Volume) (warnings : List Text) :
    (Answer.buildReport v warnings).field? "success" = some (.bool true) := by
  unfold Answer.buildReport Answer.buildWarnings Answer.buildNote
  simp only
  split
  · split <;> rfl
  · split <;> rfl

/-- **A build that can be made is made and kept.** -/
theorem serve_of_volume?_eq_some (shelf : Shelf) (h : r.volume? s = some v) :
    (r.serve s shelf).1 = shelf.put v ∧
      (r.serve s shelf).2.field? "success" = some (.bool true) := by
  unfold volume? at h
  split at h
  · rename_i hbuilds
    obtain ⟨htool, hhomes, hfound⟩ := hbuilds
    cases h
    -- the time has no part in what is read
    obtain ⟨warnings, hread⟩ : ∃ warnings,
        Sources.read { s with now := r.now } Sources.sizeLimit (pathsArgument s r.arguments) =
          .ok { paths := (r.found s).map (·.1), contents := (r.found s).map (·.2), warnings } :=
      Sources.read_eq_ok hhomes
    have hpaths : (pathsArgument s r.arguments).isEmpty = false := by
      cases hp : pathsArgument s r.arguments with
      | nil =>
        rw [found, hp] at hfound
        exact absurd rfl hfound
      | cons path paths => rfl
    have hcontents : ((r.found s).map (·.2)).isEmpty = false := by
      cases hf : r.found s with
      | nil => exact absurd hf hfound
      | cons f fs => rfl
    rw [serve_buildDatabase htool, Answer.build, hpaths, hread]
    simp only [Except.map, hcontents, Bool.false_eq_true, ↓reduceIte]
    exact ⟨rfl, success_buildReport _ _⟩
  · cases h

theorem keep_eq_ok {answer : Except Failure Json} {x : Shelf × Json}
    (h : keep shelf answer = .ok x) : x.1 = shelf := by
  unfold keep at h
  cases answer with
  | error failure => cases h
  | ok json =>
    cases h
    rfl

/-- Only a build can change the shelf. -/
theorem run_eq_ok {tool : Tool} (htool : tool ≠ .buildDatabase) {arguments : Json}
    {x : Shelf × Json} (h : Service.run s shelf arguments tool = .ok x) : x.1 = shelf := by
  cases tool with
  | buildDatabase => exact absurd rfl htool
  | _ => exact keep_eq_ok h

/-- **Everything else leaves the shelf as it is**, and a build that cannot be made does not count as
a success. -/
theorem serve_of_volume?_eq_none (shelf : Shelf) (h : r.volume? s = none) :
    (r.serve s shelf).1 = shelf ∧ (r.tool = Tool.buildDatabase.name →
      (r.serve s shelf).2.field? "success" ≠ some (.bool true)) := by
  rw [volume?_eq_none_iff] at h
  by_cases htool : r.tool = Tool.buildDatabase.name
  -- a build fails for one of three reasons: no paths, a home that is not known, or no file
  · rw [serve_buildDatabase htool, Answer.build]
    by_cases hpaths : (pathsArgument s r.arguments).isEmpty
    · rw [ite_cond_eq_true _ _ (eq_true hpaths)]
      exact ⟨rfl, fun _ hsuccess => by cases hsuccess⟩
    · rw [ite_cond_eq_false _ _ (eq_false hpaths)]
      by_cases hhomes : ∀ path ∈ pathsArgument s r.arguments, (Sources.target? s path).isSome
      · obtain ⟨warnings, hread⟩ : ∃ warnings,
            Sources.read { s with now := r.now } Sources.sizeLimit (pathsArgument s r.arguments) =
              .ok { paths := (r.found s).map (·.1), contents := (r.found s).map (·.2), warnings } :=
          Sources.read_eq_ok hhomes
        have hnone : r.found s = [] := by
          by_contra hfound
          exact h ⟨htool, hhomes, hfound⟩
        rw [hread, hnone]
        exact ⟨rfl, fun _ hsuccess => by cases hsuccess⟩
      · obtain ⟨failure, hread⟩ : ∃ failure,
            Sources.read { s with now := r.now } Sources.sizeLimit (pathsArgument s r.arguments) =
              .error failure :=
          Sources.read_eq_error hhomes
        rw [hread]
        exact ⟨rfl, fun _ hsuccess => by cases hsuccess⟩
  · refine ⟨?_, fun heq => absurd heq htool⟩
    unfold serve call
    cases hname : Tool.ofName? r.tool with
    | none => rfl
    | some tool =>
      have hother : tool ≠ .buildDatabase := by
        rintro rfl
        have hfound := List.find?_some hname
        rw [beq_iff_eq] at hfound
        exact htool hfound.symm
      simp only
      cases hrun : Service.run { s with now := r.now } shelf r.arguments tool with
      | error failure => rfl
      | ok x => exact run_eq_ok hother hrun

end Request

/-! ### Sessions -/

/-- The shelf after a list of requests. -/
def shelfAfter (s : Surroundings) (requests : List Request) : Shelf :=
  requests.foldl (fun shelf r => (r.serve s shelf).1) {}

/-- **What was built**, in order. -/
def built (s : Surroundings) (requests : List Request) : List Volume :=
  requests.filterMap (·.volume? s)

variable (s : Surroundings) (requests : List Request)

/-- One more request puts what it builds on the shelf. -/
theorem shelfAfter_append (r : Request) :
    shelfAfter s (requests ++ [r]) =
      match r.volume? s with
      | some v => (shelfAfter s requests).put v
      | none => shelfAfter s requests := by
  unfold shelfAfter
  rw [List.foldl_append]
  show (r.serve s _).1 = _
  cases h : r.volume? s with
  | some v => exact (Request.serve_of_volume?_eq_some _ h).1
  | none => exact (Request.serve_of_volume?_eq_none _ h).1

theorem built_append (r : Request) :
    built s (requests ++ [r]) = built s requests ++ (r.volume? s).toList := by
  unfold built
  rw [List.filterMap_append]
  cases h : r.volume? s with
  | some v => rw [List.filterMap_cons_some h]; rfl
  | none => rw [List.filterMap_cons_none h]; rfl

/-- **Under a name stands what was built last under it.** -/
theorem get?_shelfAfter (name : Text) :
    (shelfAfter s requests).get? name =
      ((built s requests).filter (·.name == name)).getLast? := by
  induction requests using List.reverseRecOn with
  | nil => rfl
  | append_singleton requests r ih =>
    rw [shelfAfter_append, built_append]
    cases r.volume? s with
    | none =>
      rw [Option.toList_none, List.append_nil]
      exact ih
    | some v =>
      simp only
      rw [Option.toList_some, List.filter_append, List.getLast?_append, Shelf.get?_put, ih]
      by_cases hname : v.name = name
      · simp [hname]
      · have hne : (v.name == name) = false := beq_false_of_ne hname
        simp [hname, hne]

/-- **The names stand in the order of their first builds**, each once. -/
theorem names_shelfAfter :
    (shelfAfter s requests).names = ((built s requests).map (·.name)).eraseDups := by
  induction requests using List.reverseRecOn with
  | nil => rfl
  | append_singleton requests r ih =>
    rw [shelfAfter_append, built_append]
    cases r.volume? s with
    | none =>
      rw [Option.toList_none, List.append_nil]
      exact ih
    | some v =>
      simp only
      rw [Option.toList_some, List.map_append, List.eraseDups_append, Shelf.names_put, ih]
      -- a name that was built before keeps its place
      by_cases hold : v.name ∈ (built s requests).map (·.name)
      · have hremoved : [v.name].removeAll ((built s requests).map (·.name)) = [] := by
          simpa [List.removeAll] using hold
        rw [List.map_singleton, hremoved,
          ite_cond_eq_true _ _ (eq_true (List.mem_eraseDups.2 hold))]
        exact (List.append_nil _).symm
      · have hkept : [v.name].removeAll ((built s requests).map (·.name)) = [v.name] := by
          simpa [List.removeAll] using hold
        have hnot : v.name ∉ ((built s requests).map (·.name)).eraseDups :=
          fun hmem => hold (List.mem_eraseDups.1 hmem)
        rw [List.map_singleton, hkept, ite_cond_eq_false _ _ (eq_false hnot)]
        rfl

/-- The list of catalogues names what stands on the shelf. -/
theorem names_listDatabases (shelf : Shelf) (now : Text) (arguments : Json) :
    ∃ entries, ((Request.mk now "list_databases" arguments).serve s shelf).2.field? "databases" =
        some (.arr entries) ∧
      entries.map (·.field? "name") = shelf.names.map fun name => some (.text name) := by
  have hanswer : ((Request.mk now "list_databases" arguments).serve s shelf).2 =
      Answer.volumes shelf := by
    unfold Request.serve call
    rfl
  rw [hanswer]
  refine ⟨shelf.volumes.map Answer.volumeEntry, rfl, ?_⟩
  unfold Shelf.names
  rw [List.map_map, List.map_map]
  rfl

/-- **The shelf always serves the last build that was made.**  After any requests, the catalogue
under a name is the last one that was built under it, if there is any; the catalogues are listed
once each, in the order in which their names came up.  A request that builds nothing leaves the
shelf as it is, be it a build with nothing to read or any other tool.  In what is built, the path
and the lines under one index belong to one file, whatever paths were passed over: the file is the
one at the place that the path spells, and the lines are those that were written to it. -/
theorem shelfAfter_spec (s : Surroundings) (requests : List Request) :
    let shelf := shelfAfter s requests
    (∀ name, shelf.get? name = ((built s requests).filter (·.name == name)).getLast?) ∧
    (shelf.names = ((built s requests).map (·.name)).eraseDups ∧
      ∀ now arguments, ∃ entries,
        ((Request.mk now "list_databases" arguments).serve s shelf).2.field? "databases" =
          some (.arr entries) ∧
        entries.map (·.field? "name") = shelf.names.map fun name => some (.text name)) ∧
    (∀ r : Request,
      (r.volume? s = none → (r.serve s shelf).1 = shelf) ∧
      (∀ v, r.volume? s = some v → (r.serve s shelf).1 = shelf.put v) ∧
      (r.tool = "build_database" →
        ((r.serve s shelf).2.field? "success" = some (.bool true) ↔ (r.volume? s).isSome)) ∧
      (r.tool ≠ "build_database" → r.volume? s = none)) ∧
    ∀ (r : Request) (v : Volume), r.volume? s = some v →
      v.name = nameArgument "name" r.arguments ∧ v.sources = (r.found s).map (·.1) ∧
      v.catalog = Catalog.ofTexts .standard ((r.found s).map (·.2)) ∧
      v.sources.length = v.catalog.files.length ∧
      ∀ (i : Nat) (source : Text), v.sources[i]? = some source →
        ∃ path ∈ pathsArgument s r.arguments, ∃ target octets,
          (Path.ofText path).expandHome s.homes = .ok target ∧ target.text = source ∧
          s.files.file? target = some (.readable octets) ∧ octets.size ≤ Sources.sizeLimit ∧
          (['.', '.'] ∉ target.parts →
            s.files.files.lookup (s.files.base target ++ target.parts) =
              some (.readable octets)) ∧
          v.catalog.files[i]? = some (Text.lines (Sources.contentOf octets)) ∧
          ∀ lines, Sources.Holds octets lines → v.catalog.files[i]? = some lines := by
  intro shelf
  refine ⟨get?_shelfAfter s requests, ⟨names_shelfAfter s requests, ?_⟩, fun r => ?_,
    fun r v hv => ?_⟩
  · exact names_listDatabases s shelf
  · refine ⟨fun h => (Request.serve_of_volume?_eq_none shelf h).1,
      fun v h => (Request.serve_of_volume?_eq_some shelf h).1, fun htool => ?_, fun htool => ?_⟩
    · cases h : r.volume? s with
      | none => simpa using (Request.serve_of_volume?_eq_none shelf h).2 htool
      | some v => simpa using (Request.serve_of_volume?_eq_some shelf h).2
    · exact Request.volume?_eq_none_iff.2 fun hbuilds => htool hbuilds.1
  · obtain ⟨hname, hsources, hcatalog⟩ := Request.fields_of_volume?_eq_some hv
    have hfiles : v.catalog.files = (r.found s).map fun f => Text.lines f.2 := by
      rw [hcatalog]
      exact List.map_map
    refine ⟨hname, hsources, hcatalog, ?_, fun i source hi => ?_⟩
    · rw [hsources, hfiles, List.length_map, List.length_map]
    · rw [hsources, List.getElem?_map, Option.map_eq_some_iff] at hi
      obtain ⟨f, hf, rfl⟩ := hi
      obtain ⟨path, hpath, target, octets, htarget, hoctets, hlimit, rfl⟩ :=
        Request.exists_path_of_mem_found (List.mem_of_getElem? hf)
      have hlines : v.catalog.files[i]? = some (Text.lines (Sources.contentOf octets)) := by
        rw [hfiles, List.getElem?_map, hf]
        rfl
      refine ⟨path, hpath, target, octets, htarget, rfl, hoctets, hlimit, fun hdots => ?_, hlines,
        fun lines hholds => ?_⟩
      · rw [← FileTree.file?_eq_lookup hdots]
        exact hoctets
      · rw [hlines, Sources.lines_contentOf hholds]

/-- Two files are read from absolute paths, one of them in the home directory, with other line ends;
files that are missing, too large or locked are passed over.  A later build finds nothing. -/
theorem shelfAfter_spec_absolute :
    let text (ending : String) (lines : List String) : File :=
      .readable (List.utf8Encode (Text.join ending.toList (lines.map String.toList)))
    let place (parts : List String) : List Text := parts.map String.toList
    let locked : Refusal := ⟨13, "Permission denied".toList, true⟩
    let files : List (List Text × File) :=
      [(place ["srv", "a.lua"], text "\r\n" ["---@class A", "---@field b B"]),
        (place ["home", "lua", "b.lua"], text "\n" ["---@class B", ""]),
        (place ["srv", "huge.lua"], .unreadable 30000000 locked),
        (place ["srv", "locked.lua"], .unreadable 20 locked)]
    let s : Surroundings :=
      { files := { files, workplace := place ["srv"] }, homes := { own := "/home/lua".toList } }
    let build (paths : List String) : Request :=
      ⟨"noon".toList, "build_database", .obj [("paths", .arr (paths.map .str))]⟩
    let requests := [build ["b.lua", "/srv/a.lua", "huge.lua", "./locked.lua", "~/b.lua"],
      build ["b.lua"], ⟨"night".toList, "list_databases", .obj []⟩]
    ∃ v, (shelfAfter s requests).get? "default".toList = some v ∧
      v.sources = ["/srv/a.lua".toList, "/home/lua/b.lua".toList] ∧
      v.catalog.files =
        [["---@class A".toList, "---@field b B".toList], ["---@class B".toList, []]] ∧
      (shelfAfter s requests).names = ["default".toList] := by
  intro text place locked files s build requests
  obtain ⟨hget, ⟨hnames, -⟩, hserve, -⟩ := shelfAfter_spec s requests
  let first := build ["b.lua", "/srv/a.lua", "huge.lua", "./locked.lua", "~/b.lua"]
  have hfound : first.found s =
      [("/srv/a.lua".toList, "---@class A\n---@field b B".toList),
        ("/home/lua/b.lua".toList, "---@class B\n".toList)] := by
    decide
  let volume : Volume := ⟨"default".toList, "noon".toList, (first.found s).map (·.1),
    Catalog.ofTexts .standard ((first.found s).map (·.2))⟩
  have hfirst : first.volume? s = some volume := by
    refine if_pos ⟨rfl, by decide, ?_⟩
    rw [hfound]
    exact List.cons_ne_nil _ _
  have hsecond : (build ["b.lua"]).volume? s = none :=
    Request.volume?_eq_none_iff.2 fun hbuilds => hbuilds.2.2 (by decide)
  have hthird : (Request.mk "night".toList "list_databases" (.obj [])).volume? s = none :=
    (hserve _).2.2.2 (by decide)
  have hbuilt : built s requests = [volume] := by
    show List.filterMap _ [_, _, _] = _
    rw [List.filterMap_cons_some hfirst, List.filterMap_cons_none hsecond,
      List.filterMap_cons_none hthird, List.filterMap_nil]
  rw [hbuilt] at hget hnames
  refine ⟨volume, hget _, ?_, ?_, hnames⟩
  · show (first.found s).map _ = _
    rw [hfound]
    rfl
  · show ((first.found s).map _).map Text.lines = _
    rw [hfound]
    decide

end Service

end LuaAtlas
