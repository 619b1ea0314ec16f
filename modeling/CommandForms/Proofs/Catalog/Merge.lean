import CommandForms.Catalog.Load
import CommandForms.Proofs.Catalog.RoundTrip
import CommandForms.Proofs.Computation
import CommandForms.Proofs.Entries

/-!
# Merged catalogs

The catalog of the files at several paths.  Only the files that load count.  Of the commands that they declare
under one name the last one is kept, and the aspect names are put together.
-/

namespace CommandForms

/-! ## Sets of aspect names -/

theorem Keyed.eq_of_find? {α : Type} {map other : Keyed α}
    (h : ∀ key, map.find? key = other.find? key) : map = other := by
  obtain ⟨entries, hentries⟩ := map
  obtain ⟨others, hothers⟩ := other
  obtain rfl : entries = others := hentries.ext hothers h
  rfl

namespace AspectSet

theorem contains_insert {aspects : AspectSet} {name added : String} :
    (aspects.insert added).contains name = true ↔ name = added ∨ aspects.contains name = true := by
  change (Entries.find? name (Entries.insert added () aspects.members.entries)).isSome = true ↔ _
  rw [Entries.find?_insert]
  split
  · rename_i heq
    exact iff_of_true rfl (.inl heq)
  · rename_i hne
    exact (or_iff_right hne).symm

theorem contains_extend {aspects : AspectSet} {names : List String} {name : String} :
    (aspects.extend names).contains name = true ↔ name ∈ names ∨ aspects.contains name = true := by
  induction names generalizing aspects with
  | nil => exact (or_iff_right List.not_mem_nil).symm
  | cons added names ih =>
      change ((aspects.insert added).extend names).contains name = true ↔ _
      rw [ih, contains_insert, List.mem_cons, or_left_comm, or_assoc]

theorem mem_names {aspects : AspectSet} {name : String} :
    name ∈ aspects.names ↔ aspects.contains name = true :=
  (aspects.members.contains_iff name).symm

theorem eq_of_contains {aspects others : AspectSet}
    (h : ∀ name, aspects.contains name = true ↔ others.contains name = true) : aspects = others := by
  have hmembers : aspects.members = others.members := by
    refine Keyed.eq_of_find? fun name => ?_
    have hsome : (aspects.members.find? name).isSome = (others.members.find? name).isSome :=
      Bool.eq_iff_iff.mpr (h name)
    cases hfind : aspects.members.find? name <;> cases hfind' : others.members.find? name <;>
      simp_all
  cases aspects
  cases others
  exact congrArg _ hmembers

end AspectSet

theorem Files.read_of_text {files : Files} {path text : String}
    (h : files.find path = .ok (.file text.toByteArray)) : files.read path = .ok text := by
  have htext : Files.text? text.toByteArray = some text := dif_pos text.isValidUTF8
  unfold Files.read
  rw [h, Except.ok_bind]
  dsimp only
  rw [htext]
  rfl

namespace Catalog

variable {catalog later : Catalog} {name : String}

/-! ## Merging two catalogs -/

theorem find?_insert {command : Command} :
    (catalog.insert command).find? name = if name = command.name then some command else catalog.find? name :=
  Entries.find?_insert

theorem find?_insertAll {entries : List (String × Command)} (hascending : Entries.Ascending entries)
    (hnamed : ∀ entry ∈ entries, entry.2.name = entry.1) :
    (catalog.insertAll (entries.map (·.2))).find? name =
      (Entries.find? name entries).or (catalog.find? name) := by
  induction entries generalizing catalog with
  | nil => rfl
  | cons entry entries ih =>
      obtain ⟨key, command⟩ := entry
      obtain ⟨hfirst, hrest⟩ := List.pairwise_cons.mp hascending
      obtain ⟨hkey, hlater⟩ := List.forall_mem_cons.mp hnamed
      obtain rfl : command.name = key := hkey
      change ((catalog.insert command).insertAll (entries.map (·.2))).find? name = _
      rw [ih hrest hlater, find?_insert, Entries.find?_cons]
      split
      · rename_i hname
        -- No later entry has the key of the first one.
        have hnone : Entries.find? name entries = none := by
          rw [Entries.find?_eq_none_iff]
          intro hmem
          obtain ⟨entry, hentry, rfl⟩ := List.mem_map.mp hmem
          exact String.lt_irrefl _ (hname ▸ hfirst entry hentry)
        rw [hnone]
        rfl
      · rfl

theorem aspects_insertAll (commands : List Command) :
    (catalog.insertAll commands).aspects = catalog.aspects := by
  unfold insertAll
  induction commands generalizing catalog with
  | nil => rfl
  | cons command commands ih => exact ih

theorem find?_merge : (catalog.merge later).find? name = (later.find? name).or (catalog.find? name) :=
  find?_insertAll later.commands.ascending later.named

theorem contains_aspects_merge :
    (catalog.merge later).aspects.contains name = true ↔
      later.aspects.contains name = true ∨ catalog.aspects.contains name = true := by
  change ((catalog.insertAll later.listing).aspects.extend later.aspects.names).contains name = true ↔ _
  rw [AspectSet.contains_extend, AspectSet.mem_names, aspects_insertAll]

/-! ## Merging the files at several paths -/

variable {files : Files} {path : String} {paths aspects : List String} {command : Command}

theorem ofText_of_document (document : Document) (hdepth : document.toJson.depth < Json.depthLimit)
    (hadmitted : ofDocument document = .ok catalog) : ofText .json document.text = .ok catalog := by
  rw [ofText, Document.ofText, Document.parse_text hdepth]
  change (ofDocument document).mapError Error.refused = _
  rw [hadmitted]
  rfl

theorem load_of_document (document : Document)
    (hfind : files.find path = .ok (.file document.text.toByteArray)) (hjson : Format.ofPath path = .json)
    (hdepth : document.toJson.depth < Json.depthLimit)
    (hadmitted : ofDocument document = .ok catalog) :
    load files path = .ok { catalog with origin := .file path } := by
  have htext := ofText_of_document document hdepth hadmitted
  refine Except.bind_eq_ok_iff.mpr ⟨document.text, ?_, ?_⟩
  · rw [Files.read_of_text hfind]
    rfl
  · exact Except.bind_eq_ok_iff.mpr ⟨catalog, hjson ▸ htext, rfl⟩

def loads (files : Files) (path : String) : Bool :=
  (load files path).isOk

theorem loads_of_ok {source : Catalog} (h : load files path = .ok source) : loads files path = true := by
  rw [loads, h]
  rfl

theorem loads_eq_false_iff : loads files path = false ↔ ∃ e, load files path = .error e := by
  unfold loads
  cases load files path with
  | ok source => exact iff_of_false nofun fun ⟨_, h⟩ => nomatch h
  | error e => exact iff_of_true rfl ⟨e, rfl⟩

/-- The command that the catalog at a path declares under a name. -/
def declared? (files : Files) (name path : String) : Option Command :=
  match load files path with
  | .ok source => source.find? name
  | .error _ => none

/-- The last of some paths to declare a command under this name declares this one. -/
def DeclaredLast (files : Files) (paths : List String) (name : String) (command : Command) : Prop :=
  ∃ before path after, paths = before ++ path :: after ∧ declared? files name path = some command ∧
    ∀ other ∈ after, declared? files name other = none

/-- A catalog at one of some paths has this aspect name. -/
def AspectOf (files : Files) (paths : List String) (name : String) : Prop :=
  ∃ path ∈ paths, ∃ source, load files path = .ok source ∧ source.aspects.contains name = true

/-- What a merged catalog holds: under each name the command that is declared last, the aspect names of all
the catalogs and the further ones, and the paths that load, in order. -/
structure MergedFrom (files : Files) (paths aspects : List String) (catalog : Catalog) : Prop where
  find : ∀ name command, catalog.find? name = some command ↔ DeclaredLast files paths name command
  missing : ∀ name, catalog.find? name = none ↔ ∀ path ∈ paths, declared? files name path = none
  aspects : ∀ name, catalog.aspects.contains name = true ↔ name ∈ aspects ∨ AspectOf files paths name
  origin : catalog.origin = .merged (paths.filter (loads files))

/-- What a catalog holds, wherever it comes from. -/
def holdings (catalog : Catalog) : Keyed Command × AspectSet :=
  (catalog.commands, catalog.aspects)

theorem declaredLast_iff :
    DeclaredLast files paths name command ↔
      paths.reverse.findSome? (declared? files name) = some command := by
  rw [List.findSome?_eq_some_iff]
  constructor
  · rintro ⟨before, path, after, rfl, hdeclared, hafter⟩
    refine ⟨after.reverse, path, before.reverse, by simp, hdeclared, ?_⟩
    exact fun other hmem => hafter other (List.mem_reverse.mp hmem)
  · rintro ⟨after, path, before, hpaths, hdeclared, hafter⟩
    refine ⟨before.reverse, path, after.reverse, ?_, hdeclared, ?_⟩
    · rw [← List.reverse_reverse paths, hpaths]
      simp
    · exact fun other hmem => hafter other (List.mem_reverse.mp hmem)

/-! ## One path after the other -/

theorem findSome?_declared?_concat :
    (paths ++ [path]).reverse.findSome? (declared? files name) =
      (declared? files name path).or (paths.reverse.findSome? (declared? files name)) := by
  rw [List.reverse_concat, ← List.singleton_append, List.findSome?_append, List.findSome?_singleton]

theorem aspectOf_concat :
    AspectOf files (paths ++ [path]) name ↔
      (∃ source, load files path = .ok source ∧ source.aspects.contains name = true) ∨
        AspectOf files paths name := by
  unfold AspectOf
  simp only [List.mem_append, List.mem_singleton, or_and_right, exists_or, exists_eq_left]
  exact or_comm

theorem add_of_error {e : Error} (h : load files path = .error e) (merged : Option Merged) :
    Merged.add files merged path = merged := by
  unfold Merged.add
  rw [h]

/-- What a path that loads adds to what the paths before it have led to, if anything. -/
theorem exists_add {source : Catalog} (h : load files path = .ok source) (merged : Option Merged) :
    ∃ added, Merged.add files merged path = some added ∧
      added.paths = path :: merged.elim [] (·.paths) ∧
      (∀ name, added.catalog.find? name =
        (source.find? name).or (merged.bind (·.catalog.find? name))) ∧
      ∀ name, added.catalog.aspects.contains name = true ↔
        source.aspects.contains name = true ∨
          ∃ earlier ∈ merged, earlier.catalog.aspects.contains name = true := by
  unfold Merged.add
  rw [h]
  cases merged with
  | none => exact ⟨_, rfl, rfl, fun name => Option.or_none.symm, fun name => by simp⟩
  | some earlier =>
      refine ⟨_, rfl, rfl, fun name => find?_merge, fun name => ?_⟩
      simp [contains_aspects_merge]

/-- What some paths have led to: something as soon as one of them loads, and then what the ones that load
hold together. -/
structure Gathered (files : Files) (paths : List String) (merged : Option Merged) : Prop where
  loaded : merged.isSome = paths.any (loads files)
  order : merged.elim [] (·.paths) = (paths.filter (loads files)).reverse
  commands : ∀ name, merged.bind (·.catalog.find? name) = paths.reverse.findSome? (declared? files name)
  names : ∀ name, (∃ earlier ∈ merged, earlier.catalog.aspects.contains name = true) ↔
    AspectOf files paths name

theorem Gathered.add {merged : Option Merged} (h : Gathered files paths merged) (path : String) :
    Gathered files (paths ++ [path]) (Merged.add files merged path) := by
  cases hload : load files path with
  | error e =>
      have hloads : loads files path = false := loads_eq_false_iff.mpr ⟨e, hload⟩
      rw [add_of_error hload]
      refine ⟨?_, ?_, fun name => ?_, fun name => ?_⟩
      · simp [h.loaded, hloads]
      · simp [h.order, hloads]
      · rw [findSome?_declared?_concat, declared?, hload]
        exact h.commands name
      · rw [aspectOf_concat, hload, h.names]
        simp
  | ok source =>
      have hloads : loads files path = true := loads_of_ok hload
      obtain ⟨added, hadd, horder, hcommands, hnames⟩ := exists_add hload merged
      rw [hadd]
      refine ⟨?_, ?_, fun name => ?_, fun name => ?_⟩
      · simp [hloads]
      · simp [horder, h.order, hloads]
      · rw [findSome?_declared?_concat, declared?, hload, ← h.commands]
        exact hcommands name
      · rw [aspectOf_concat, hload, ← h.names]
        simp [hnames]

theorem Gathered.foldl {before : List String} {merged : Option Merged} (h : Gathered files before merged)
    (paths : List String) : Gathered files (before ++ paths) (paths.foldl (Merged.add files) merged) := by
  induction paths generalizing before merged with
  | nil =>
      rw [List.append_nil]
      exact h
  | cons path paths ih =>
      rw [← List.singleton_append, ← List.append_assoc]
      exact ih (h.add path)

theorem gathered_none (files : Files) : Gathered files [] none where
  loaded := rfl
  order := rfl
  commands _ := rfl
  names _ := by simp [AspectOf]

/-! ## Catalogs of several files -/

theorem loadAll_cases (files : Files) (paths aspects : List String) :
    (∀ path ∈ paths, loads files path = false) ∧
        loadAll files paths aspects = .error .nothingLoaded ∨
      (∃ path ∈ paths, loads files path = true) ∧
        ∃ catalog, loadAll files paths aspects = .ok catalog ∧ MergedFrom files paths aspects catalog := by
  obtain ⟨hloaded, horder, hcommands, hnames⟩ := (gathered_none files).foldl paths
  rw [List.nil_append] at hloaded horder hcommands hnames
  unfold loadAll
  cases hmerged : paths.foldl (Merged.add files) none with
  | none =>
      rw [hmerged] at hloaded
      exact .inl ⟨by simpa using hloaded.symm, rfl⟩
  | some merged =>
      rw [hmerged] at hloaded horder hcommands hnames
      have hfind : ∀ name, merged.catalog.find? name = paths.reverse.findSome? (declared? files name) :=
        hcommands
      refine .inr ⟨List.any_eq_true.mp hloaded.symm, _, rfl, ?_, ?_, ?_, ?_⟩
      · intro name command
        rw [declaredLast_iff, ← hfind]
        rfl
      · intro name
        change merged.catalog.find? name = none ↔ _
        rw [hfind]
        simp
      · intro name
        change (merged.catalog.aspects.extend aspects).contains name = true ↔ _
        rw [AspectSet.contains_extend, ← hnames]
        simp
      · exact congrArg Origin.merged (List.reverse_eq_iff.mpr horder)

theorem loadAll_eq_error_iff :
    loadAll files paths aspects = .error .nothingLoaded ↔ ∀ path ∈ paths, loads files path = false := by
  rcases loadAll_cases files paths aspects with ⟨hnone, herror⟩ | ⟨⟨path, hmem, hloads⟩, _, hcatalog, _⟩
  · exact iff_of_true herror hnone
  · refine iff_of_false ?_ fun hnone => ?_
    · rw [hcatalog]
      exact nofun
    · rw [hnone path hmem] at hloads
      cases hloads

theorem exists_loadAll (hmem : path ∈ paths) (hloads : loads files path = true) (aspects : List String) :
    ∃ catalog, loadAll files paths aspects = .ok catalog ∧ MergedFrom files paths aspects catalog := by
  rcases loadAll_cases files paths aspects with ⟨hnone, _⟩ | ⟨_, hcatalog⟩
  · rw [hnone path hmem] at hloads
    cases hloads
  · exact hcatalog

theorem MergedFrom.find?_eq (h : MergedFrom files paths aspects catalog) (name : String) :
    catalog.find? name = paths.reverse.findSome? (declared? files name) :=
  Option.ext fun command => (h.find name command).trans declaredLast_iff

theorem loadAll_skip {before after : List String} (h : loads files path = false) :
    loadAll files (before ++ path :: after) aspects = loadAll files (before ++ after) aspects := by
  obtain ⟨e, hload⟩ := loads_eq_false_iff.mp h
  unfold loadAll
  rw [List.foldl_append, List.foldl_cons, add_of_error hload, ← List.foldl_append]

theorem findSome?_declared?_swap {before after : List String} {first second : String}
    (hdisjoint : declared? files name first = none ∨ declared? files name second = none) :
    (before ++ first :: second :: after).reverse.findSome? (declared? files name) =
      (before ++ second :: first :: after).reverse.findSome? (declared? files name) := by
  have hsplit : ∀ path other : String,
      (before ++ path :: other :: after).reverse.findSome? (declared? files name) =
        (after.reverse.findSome? (declared? files name)).or
          (((declared? files name other).or (declared? files name path)).or
            (before.reverse.findSome? (declared? files name))) := by
    intro path other
    have hlist : (before ++ path :: other :: after).reverse =
        after.reverse ++ ([other] ++ [path] ++ before.reverse) := by simp
    rw [hlist, List.findSome?_append, List.findSome?_append, List.findSome?_append,
      List.findSome?_singleton, List.findSome?_singleton]
  rw [hsplit, hsplit]
  rcases hdisjoint with h | h <;> rw [h, Option.or_none, Option.none_or]

theorem loadAll_swap {before after : List String} {first second : String}
    (hdisjoint : ∀ name, declared? files name first = none ∨ declared? files name second = none) :
    (loadAll files (before ++ second :: first :: after) aspects).map holdings =
      (loadAll files (before ++ first :: second :: after) aspects).map holdings := by
  have hmem : ∀ path, path ∈ before ++ second :: first :: after ↔
      path ∈ before ++ first :: second :: after :=
    fun path => ((List.Perm.swap first second after).append_left before).mem_iff
  rcases loadAll_cases files (before ++ first :: second :: after) aspects with
    ⟨hnone, herror⟩ | ⟨⟨path, hpath, hloads⟩, catalog, hcatalog, hmerged⟩
  · rw [herror, loadAll_eq_error_iff.mpr fun path hpath => hnone path ((hmem path).mp hpath)]
  · obtain ⟨swapped, hswapped, hmerged'⟩ := exists_loadAll ((hmem path).mpr hpath) hloads aspects
    have hcommands : swapped.commands = catalog.commands := by
      refine Keyed.eq_of_find? fun name => ?_
      change swapped.find? name = catalog.find? name
      rw [hmerged.find?_eq, hmerged'.find?_eq, findSome?_declared?_swap (hdisjoint name)]
    have haspects : swapped.aspects = catalog.aspects := by
      refine AspectSet.eq_of_contains fun name => ?_
      rw [hmerged.aspects, hmerged'.aspects]
      unfold AspectOf
      simp only [hmem]
    rw [hcatalog, hswapped]
    exact congrArg Except.ok (Prod.ext hcommands haspects)

/-- Several files give a catalog unless none of them loads.  The catalog holds under each name the command of
the last file that declares one, the aspect names of all the files together with the further ones, and the
paths of the files that load, in order.  A path that does not load changes nothing wherever it is put, and
two neighbours that declare no name in common may be swapped: the commands and the aspect names stay. -/
theorem several_files_are_merged (files : Files) (paths aspects : List String) :
    (loadAll files paths aspects = .error .nothingLoaded ↔ ∀ path ∈ paths, loads files path = false) ∧
    ((∃ path ∈ paths, loads files path = true) →
      ∃ catalog, loadAll files paths aspects = .ok catalog ∧ MergedFrom files paths aspects catalog) ∧
    (∀ before path after, paths = before ++ after → loads files path = false →
      loadAll files (before ++ path :: after) aspects = loadAll files paths aspects) ∧
    ∀ before first second after, paths = before ++ first :: second :: after →
      (∀ name, declared? files name first = none ∨ declared? files name second = none) →
      (loadAll files (before ++ second :: first :: after) aspects).map holdings =
        (loadAll files paths aspects).map holdings := by
  refine ⟨loadAll_eq_error_iff, ?_, ?_, ?_⟩
  · rintro ⟨path, hmem, hloads⟩
    exact exists_loadAll hmem hloads aspects
  · rintro before path after rfl hloads
    exact loadAll_skip hloads
  · rintro before first second after rfl hdisjoint
    exact loadAll_swap hdisjoint

/-- A catalog of two commands and an aspect name. -/
def baseDocument : Document :=
  ⟨"1.0", ["forge"],
    [⟨"rest", none, .boolean ⟨"rest", true⟩ none⟩, ⟨"say", none, .string ⟨"line", true⟩ {}⟩]⟩

/-- A catalog with another command under one of their names. -/
def localDocument : Document :=
  ⟨"1.0", ["moth"], [⟨"rest", none, .integer ⟨"days", true⟩ {}⟩]⟩

/-- A catalog with a command under a name of its own. -/
def moreDocument : Document :=
  ⟨"1.0", [], [⟨"walk", none, .integer ⟨"miles", true⟩ {}⟩]⟩

/-- Files with the three catalogs, and a directory. -/
def sampleFiles : Files :=
  .ofFindings [("base.json", .ok (.file baseDocument.text.toByteArray)),
    ("local.json", .ok (.file localDocument.text.toByteArray)),
    ("more.json", .ok (.file moreDocument.text.toByteArray)), ("notes", .ok .directory)]

theorem several_files_are_merged_sample :
    loadAll sampleFiles ["notes"] ["winter"] = .error .nothingLoaded ∧
    (∃ catalog, loadAll sampleFiles ["base.json", "local.json", "more.json"] ["winter"] = .ok catalog ∧
      catalog.find? "rest" = some ⟨"rest", none, .integer ⟨"days", true⟩ {}⟩ ∧
      catalog.find? "say" = some ⟨"say", none, .string ⟨"line", true⟩ {}⟩ ∧
      catalog.aspects.contains "moth" = true ∧
      catalog.origin = .merged ["base.json", "local.json", "more.json"]) ∧
    loadAll sampleFiles ["base.json", "notes", "local.json", "more.json"] ["winter"] =
      loadAll sampleFiles ["base.json", "local.json", "more.json"] ["winter"] ∧
    (loadAll sampleFiles ["base.json", "more.json", "local.json"] ["winter"]).map holdings =
      (loadAll sampleFiles ["base.json", "local.json", "more.json"] ["winter"]).map holdings := by
  have hbase : load sampleFiles "base.json" = .ok _ :=
    load_of_document baseDocument rfl (by decide) (by decide) rfl
  have hlocal : load sampleFiles "local.json" = .ok _ :=
    load_of_document localDocument rfl (by decide) (by decide) rfl
  have hmore : load sampleFiles "more.json" = .ok _ :=
    load_of_document moreDocument rfl (by decide) (by decide) rfl
  have hloads : loads sampleFiles "base.json" = true ∧ loads sampleFiles "local.json" = true ∧
      loads sampleFiles "more.json" = true :=
    ⟨loads_of_ok hbase, loads_of_ok hlocal, loads_of_ok hmore⟩
  have hrest : ∀ name, declared? sampleFiles name "local.json" =
      Entries.find? name [("rest", ⟨"rest", none, .integer ⟨"days", true⟩ {}⟩)] := by
    intro name
    rw [declared?, hlocal]
    rfl
  have hwalk : ∀ name, declared? sampleFiles name "more.json" =
      Entries.find? name [("walk", ⟨"walk", none, .integer ⟨"miles", true⟩ {}⟩)] := by
    intro name
    rw [declared?, hmore]
    rfl
  have hsay : declared? sampleFiles "say" "base.json" =
      some ⟨"say", none, .string ⟨"line", true⟩ {}⟩ := by
    rw [declared?, hbase]
    rfl
  have hdisjoint : ∀ name, declared? sampleFiles name "local.json" = none ∨
      declared? sampleFiles name "more.json" = none := by
    intro name
    rw [hrest, hwalk, Entries.find?_cons, Entries.find?_cons]
    by_cases hname : name = "rest"
    · subst hname
      exact .inr rfl
    · exact .inl (if_neg hname)
  obtain ⟨hnothing, -, -, -⟩ := several_files_are_merged sampleFiles ["notes"] ["winter"]
  obtain ⟨-, hmerged, hskip, hswap⟩ :=
    several_files_are_merged sampleFiles ["base.json", "local.json", "more.json"] ["winter"]
  obtain ⟨catalog, hcatalog, hholds⟩ := hmerged ⟨"base.json", .head _, hloads.1⟩
  refine ⟨hnothing.mpr (by decide), ⟨catalog, hcatalog, ?_, ?_, ?_, ?_⟩, ?_, ?_⟩
  · refine (hholds.find "rest" _).mpr ⟨["base.json"], "local.json", ["more.json"], rfl, ?_, ?_⟩
    · exact hrest "rest"
    · exact List.forall_mem_singleton.mpr (hwalk "rest")
  · refine (hholds.find "say" _).mpr ⟨[], "base.json", ["local.json", "more.json"], rfl, hsay, ?_⟩
    exact List.forall_mem_cons.mpr ⟨hrest "say", List.forall_mem_singleton.mpr (hwalk "say")⟩
  · exact (hholds.aspects "moth").mpr (.inr ⟨"local.json", by decide, _, hlocal, rfl⟩)
  · rw [hholds.origin, List.filter_eq_self.mpr (by simp [hloads])]
  · exact hskip ["base.json"] "notes" _ rfl rfl
  · exact hswap ["base.json"] "local.json" "more.json" [] rfl hdisjoint

end Catalog

end CommandForms
