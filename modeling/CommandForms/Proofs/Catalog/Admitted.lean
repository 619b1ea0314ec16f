import CommandForms.Catalog.Load
import CommandForms.Proofs.Computation
import CommandForms.Proofs.Entries

/-!
# Commands of admitted catalogs

The admission of a document checks the name and the delimiters of every command, and no way to come by a
catalog adds a command that has not been checked: reading a text, reading a file, and merging the catalogs
of several files.
-/

namespace CommandForms.Catalog

variable {catalog later : Catalog} {command : Command}

/-- What admission asks of a single command: a name that is not blank, and well-formed delimiters. -/
structure Admissible (command : Command) : Prop where
  named : Text.isBlankText command.name = false
  delimiters : command.schema.checkDelimiters = .ok ()

/-- Every command of a catalog is one that admission lets through. -/
def Checked (catalog : Catalog) : Prop :=
  ∀ entry ∈ catalog.commands.entries, Admissible entry.2

/-- The ways to come by a catalog: from a text, from a file, and from the files at several paths. -/
inductive Loaded : Catalog → Prop
  | text {format : Format} {text : String} {catalog : Catalog} :
      ofText format text = .ok catalog → Loaded catalog
  | file {files : Files} {path : String} {catalog : Catalog} :
      load files path = .ok catalog → Loaded catalog
  | files {files : Files} {paths aspects : List String} {catalog : Catalog} :
      loadAll files paths aspects = .ok catalog → Loaded catalog

/-! ## Operations on checked catalogs -/

theorem checked_empty : Checked empty :=
  nofun

theorem Checked.insert (h : Checked catalog) (hcommand : Admissible command) :
    Checked (catalog.insert command) := by
  intro entry hmem
  rcases Entries.mem_insert hmem with rfl | hmem
  · exact hcommand
  · exact h entry hmem

theorem Checked.insertAll {commands : List Command} (h : Checked catalog)
    (hcommands : ∀ command ∈ commands, Admissible command) :
    Checked (catalog.insertAll commands) := by
  unfold Catalog.insertAll
  induction commands generalizing catalog with
  | nil => exact h
  | cons command commands ih =>
      obtain ⟨hhead, htail⟩ := List.forall_mem_cons.mp hcommands
      rw [List.foldl_cons]
      exact ih (h.insert hhead) htail

theorem Checked.merge (h : Checked catalog) (hlater : Checked later) :
    Checked (catalog.merge later) := by
  have hlisting : ∀ command ∈ later.listing, Admissible command := by
    intro command hmem
    obtain ⟨entry, hentry, rfl⟩ := List.mem_map.mp hmem
    exact hlater entry hentry
  exact h.insertAll hlisting

theorem Checked.find? {name : String} (h : Checked catalog)
    (hfind : catalog.find? name = some command) : Admissible command :=
  h _ (Entries.mem_of_find? hfind)

/-! ## Admission and loading -/

theorem admissible_of_checkCommands {commands : List Command} {seen : List String}
    (h : checkCommands seen commands = .ok ()) : ∀ command ∈ commands, Admissible command := by
  induction commands generalizing seen with
  | nil => exact nofun
  | cons command commands ih =>
      rw [checkCommands] at h
      split at h
      · cases h
      · rename_i hnamed
        dsimp only at h
        split at h
        · cases h
        · obtain ⟨_, hcheck, hrest⟩ := Except.bind_eq_ok_iff.mp h
          have hcommand : Admissible command :=
            ⟨(Bool.not_eq_true _).mp hnamed, Except.mapError_eq_ok_iff.mp hcheck⟩
          exact List.forall_mem_cons.mpr ⟨hcommand, ih hrest⟩

theorem checked_ofDocument {document : Document} (h : ofDocument document = .ok catalog) :
    Checked catalog := by
  obtain ⟨_, hcheck, hbuilt⟩ := Except.bind_eq_ok_iff.mp h
  cases hbuilt
  exact Checked.insertAll checked_empty (admissible_of_checkCommands hcheck)

theorem checked_ofText {format : Format} {text : String} (h : ofText format text = .ok catalog) :
    Checked catalog := by
  obtain ⟨document, _, hadmitted⟩ := Except.bind_eq_ok_iff.mp h
  exact checked_ofDocument (Except.mapError_eq_ok_iff.mp hadmitted)

theorem checked_load {files : Files} {path : String} (h : load files path = .ok catalog) :
    Checked catalog := by
  obtain ⟨text, _, h⟩ := Except.bind_eq_ok_iff.mp h
  obtain ⟨parsed, htext, hbuilt⟩ := Except.bind_eq_ok_iff.mp h
  cases hbuilt
  exact fun entry hmem => checked_ofText htext entry hmem

theorem checked_add {files : Files} {path : String} {merged : Option Merged}
    (h : ∀ m ∈ merged, Checked m.catalog) :
    ∀ m ∈ Merged.add files merged path, Checked m.catalog := by
  unfold Merged.add
  cases hload : load files path with
  | error e =>
      cases merged <;> exact h
  | ok loaded =>
      have hloaded := checked_load hload
      cases merged with
      | none =>
          rintro m ⟨⟩
          exact hloaded
      | some merged =>
          rintro m ⟨⟩
          exact (h merged rfl).merge hloaded

theorem checked_loadAll {files : Files} {paths aspects : List String}
    (h : loadAll files paths aspects = .ok catalog) : Checked catalog := by
  have hmerged : ∀ (paths : List String) (merged : Option Merged),
      (∀ m ∈ merged, Checked m.catalog) →
        ∀ m ∈ paths.foldl (Merged.add files) merged, Checked m.catalog := by
    intro paths
    induction paths with
    | nil => exact fun _ h => h
    | cons path paths ih => exact fun _ h => ih _ (checked_add h)
  unfold loadAll at h
  split at h
  · cases h
  · rename_i merged hfold
    cases h
    exact hmerged paths none nofun merged hfold

theorem Loaded.checked (h : Loaded catalog) : Checked catalog := by
  cases h with
  | text h => exact checked_ofText h
  | file h => exact checked_load h
  | files h => exact checked_loadAll h

theorem Loaded.name_ne_empty {name : String} (h : Loaded catalog)
    (hfind : catalog.find? name = some command) : name ≠ "" := by
  rintro rfl
  have hnamed := (h.checked.find? hfind).named
  rw [catalog.named _ (Entries.mem_of_find? hfind)] at hnamed
  cases hnamed

end CommandForms.Catalog
