import CommandForms.Proofs.Catalog.Merge
import CommandForms.Proofs.Schema.Delimiters
import CommandForms.Proofs.Text.Blank
import Mathlib.Data.List.Nodup
import Mathlib.Data.List.Induction

/-!
# Admission of documents

A document is admitted exactly when each of its commands may stand behind those in front of it.  The first
command that may not tells why the document is refused.  The catalog of an admitted document holds every
command of it under its name, and nothing else.
-/

namespace CommandForms.Catalog

/-- What admission asks of commands in a row: names that are not blank and pairwise different, and delimiter
patterns that are well formed. -/
structure Acceptable (commands : List Command) : Prop where
  named : ∀ command ∈ commands, Text.trim command.name ≠ ""
  distinct : (commands.map (·.name)).Nodup
  delimiters : ∀ command ∈ commands, command.schema.Everywhere Schema.WellFormedDelimiter

/-- Why a command may not stand behind others.  A blank name counts before a name that is taken, and a name
that is taken before the first delimiter pattern that is not well formed. -/
inductive Refused (before : List Command) (command : Command) : Refusal → Prop
  | blankName (hblank : Text.trim command.name = "") : Refused before command .blankName
  | duplicate (hnamed : Text.trim command.name ≠ "") (htaken : command.name ∈ before.map (·.name)) :
      Refused before command (.duplicate command.name)
  | badDelimiter {front back : List String} {pattern : String} (hnamed : Text.trim command.name ≠ "")
      (hnew : command.name ∉ before.map (·.name))
      (hpatterns : command.schema.delimiters = front ++ pattern :: back)
      (hfront : ∀ other ∈ front, WellFormedPattern other) (hbad : ¬ WellFormedPattern pattern) :
      Refused before command (.badDelimiter command.name ⟨pattern⟩)

/-- What the catalog of a document holds: each command of the document under its name, in the order of the
names, and the aspect names of the document. -/
structure Declares (document : Document) (catalog : Catalog) : Prop where
  find : ∀ name command, catalog.find? name = some command ↔
    command ∈ document.commands ∧ command.name = name
  listing : catalog.listing.Perm document.commands
  size : catalog.size = document.commands.length
  names : catalog.names.Perm (document.commands.map (·.name))
  ascending : catalog.names.Pairwise (· < ·)
  aspects : ∀ name, catalog.aspects.contains name = true ↔ name ∈ document.aspects

variable {before after commands : List Command} {command : Command} {refusal : Refusal}
  {seen : List String} {document : Document} {catalog : Catalog}

/-! ## One command behind others -/

theorem acceptable_concat : Acceptable (before ++ [command]) ↔
    Acceptable before ∧ Text.trim command.name ≠ "" ∧ command.name ∉ before.map (·.name) ∧
      command.schema.Everywhere Schema.WellFormedDelimiter := by
  have hdistinct : ((before ++ [command]).map (·.name)).Nodup ↔
      command.name ∉ before.map (·.name) ∧ (before.map (·.name)).Nodup := by
    rw [List.map_append, List.map_singleton, ← List.concat_eq_append, List.nodup_concat]
  constructor
  · rintro ⟨hnamed, hnodup, hdelimiters⟩
    rw [List.forall_mem_append, List.forall_mem_singleton] at hnamed hdelimiters
    obtain ⟨hnew, hnodup⟩ := hdistinct.mp hnodup
    exact ⟨⟨hnamed.1, hnodup, hdelimiters.1⟩, hnamed.2, hnew, hdelimiters.2⟩
  · rintro ⟨⟨hnamed, hnodup, hdelimiters⟩, hname, hnew, hwellFormed⟩
    refine ⟨?_, hdistinct.mpr ⟨hnew, hnodup⟩, ?_⟩
    · exact List.forall_mem_append.mpr ⟨hnamed, List.forall_mem_singleton.mpr hname⟩
    · exact List.forall_mem_append.mpr ⟨hdelimiters, List.forall_mem_singleton.mpr hwellFormed⟩

theorem Acceptable.concat_or_refused (h : Acceptable before) (command : Command) :
    Acceptable (before ++ [command]) ∨ ∃ refusal, Refused before command refusal := by
  by_cases hblank : Text.trim command.name = ""
  · exact .inr ⟨_, .blankName hblank⟩
  by_cases htaken : command.name ∈ before.map (·.name)
  · exact .inr ⟨_, .duplicate hblank htaken⟩
  cases hcheck : command.schema.checkDelimiters with
  | ok =>
      have hdelimiters := Schema.checkDelimiters_eq_ok.mp hcheck
      exact .inl (acceptable_concat.mpr ⟨h, hblank, htaken, hdelimiters⟩)
  | error e =>
      obtain ⟨front, back, hpatterns, hfront, hbad⟩ := Schema.checkDelimiters_eq_error.mp hcheck
      exact .inr ⟨_, .badDelimiter hblank htaken hpatterns hfront hbad⟩

/-- Commands are all acceptable, or there is a first one that is refused. -/
theorem acceptable_or_refused (commands : List Command) :
    Acceptable commands ∨ ∃ before command after refusal, commands = before ++ command :: after ∧
      Acceptable before ∧ Refused before command refusal := by
  induction commands using List.reverseRecOn with
  | nil => exact .inl ⟨nofun, List.nodup_nil, nofun⟩
  | append_singleton commands last ih =>
      rcases ih with h | ⟨before, command, after, refusal, rfl, hbefore, hrefused⟩
      · refine (h.concat_or_refused last).imp_right ?_
        rintro ⟨refusal, hrefused⟩
        exact ⟨commands, last, [], refusal, rfl, h, hrefused⟩
      · exact .inr ⟨before, command, after ++ [last], refusal, by simp, hbefore, hrefused⟩

/-! ## The check of commands -/

/-- A list holds the names of commands, in any order. -/
def Names (seen : List String) (before : List Command) : Prop :=
  ∀ name, name ∈ seen ↔ name ∈ before.map (·.name)

theorem Names.cons (h : Names seen before) (command : Command) :
    Names (command.name :: seen) (before ++ [command]) := by
  intro name
  rw [List.mem_cons, h name, List.map_append, List.mem_append, List.map_singleton, List.mem_singleton,
    or_comm]

theorem checkCommands_of_acceptable (hseen : Names seen before) (h : Acceptable (before ++ [command]))
    (after : List Command) :
    checkCommands seen (command :: after) = checkCommands (command.name :: seen) after := by
  obtain ⟨_, hnamed, hnew, hdelimiters⟩ := acceptable_concat.mp h
  have hblank : ¬ Text.isBlankText command.name = true := mt Text.trim_eq_empty_iff.mpr hnamed
  have htaken : ¬ seen.contains command.name = true := by
    rwa [List.contains_iff_mem, hseen]
  have hcheck := Schema.checkDelimiters_eq_ok.mpr hdelimiters
  rw [checkCommands, if_neg hblank, if_neg htaken, hcheck]
  rfl

theorem checkCommands_of_refused (hseen : Names seen before) (h : Refused before command refusal)
    (after : List Command) : checkCommands seen (command :: after) = .error refusal := by
  rw [checkCommands]
  cases h with
  | blankName hblank =>
      rw [if_pos (Text.trim_eq_empty_iff.mp hblank)]
      rfl
  | duplicate hnamed htaken =>
      have hcontains : seen.contains command.name = true := by
        rwa [List.contains_iff_mem, hseen]
      rw [if_neg (mt Text.trim_eq_empty_iff.mpr hnamed), if_pos hcontains]
      rfl
  | @badDelimiter front back pattern hnamed hnew hpatterns hfront hbad =>
      have hcontains : ¬ seen.contains command.name = true := by
        rwa [List.contains_iff_mem, hseen]
      have hcheck : command.schema.checkDelimiters = .error ⟨pattern⟩ :=
        Schema.checkDelimiters_eq_error.mpr ⟨front, back, hpatterns, hfront, hbad⟩
      rw [if_neg (mt Text.trim_eq_empty_iff.mpr hnamed), if_neg hcontains, hcheck]
      rfl

theorem checkCommands_append {front : List Command} (hseen : Names seen before)
    (h : Acceptable (before ++ front)) (after : List Command) :
    ∃ seen', Names seen' (before ++ front) ∧
      checkCommands seen (front ++ after) = checkCommands seen' after := by
  induction front generalizing seen before with
  | nil => exact ⟨seen, by rwa [List.append_nil], rfl⟩
  | cons command front ih =>
      rw [← List.singleton_append, ← List.append_assoc] at h ⊢
      obtain ⟨seen', hseen', hrest⟩ := ih (hseen.cons command) h
      refine ⟨seen', hseen', ?_⟩
      have hfirst : Acceptable (before ++ [command]) :=
        ⟨(List.forall_mem_append.mp h.named).1, ((List.sublist_append_left _ front).map _).nodup h.distinct,
          (List.forall_mem_append.mp h.delimiters).1⟩
      rw [List.append_assoc, List.singleton_append, checkCommands_of_acceptable hseen hfirst, hrest]

theorem names_nil : Names [] [] :=
  fun _ => Iff.rfl

theorem checkCommands_eq_error_of_refused (hbefore : Acceptable before)
    (h : Refused before command refusal) (after : List Command) :
    checkCommands [] (before ++ command :: after) = .error refusal := by
  obtain ⟨seen, hseen, hrest⟩ := checkCommands_append names_nil hbefore (command :: after)
  exact hrest.trans (checkCommands_of_refused hseen h after)

theorem checkCommands_eq_ok : checkCommands [] commands = .ok () ↔ Acceptable commands := by
  constructor
  · intro hcheck
    rcases acceptable_or_refused commands with h | ⟨_, _, after, _, rfl, hbefore, hrefused⟩
    · exact h
    · rw [checkCommands_eq_error_of_refused hbefore hrefused after] at hcheck
      cases hcheck
  · intro h
    obtain ⟨seen, _, hrest⟩ := checkCommands_append names_nil h []
    rw [List.append_nil] at hrest
    exact hrest

theorem checkCommands_eq_error : checkCommands [] commands = .error refusal ↔
    ∃ before command after, commands = before ++ command :: after ∧ Acceptable before ∧
      Refused before command refusal := by
  constructor
  · intro hcheck
    rcases acceptable_or_refused commands with h | ⟨before, command, after, _, rfl, hbefore, hrefused⟩
    · rw [checkCommands_eq_ok.mpr h] at hcheck
      cases hcheck
    · rw [checkCommands_eq_error_of_refused hbefore hrefused after] at hcheck
      cases hcheck
      exact ⟨before, command, after, rfl, hbefore, hrefused⟩
  · rintro ⟨before, command, after, rfl, hbefore, hrefused⟩
    exact checkCommands_eq_error_of_refused hbefore hrefused after

/-! ## Admitted documents -/

theorem entries_insertAll (catalog : Catalog) (commands : List Command) :
    (catalog.insertAll commands).commands.entries =
      (commands.map fun command => (command.name, command)).foldl
        (fun built entry => Entries.insert entry.1 entry.2 built) catalog.commands.entries := by
  unfold insertAll
  induction commands generalizing catalog with
  | nil => rfl
  | cons command commands ih => exact ih (catalog.insert command)

theorem ofDocument_eq_ok : ofDocument document = .ok catalog ↔ Acceptable document.commands ∧
    ({ empty with aspects := .ofList document.aspects } : Catalog).insertAll document.commands = catalog := by
  rw [← checkCommands_eq_ok]
  unfold ofDocument
  cases checkCommands [] document.commands with
  | error refusal => exact iff_of_false nofun fun h => nomatch h.1
  | ok => exact ⟨fun h => ⟨rfl, Except.ok.inj h⟩, fun h => congrArg Except.ok h.2⟩

theorem ofDocument_eq_error : ofDocument document = .error refusal ↔
    checkCommands [] document.commands = .error refusal := by
  unfold ofDocument
  cases checkCommands [] document.commands with
  | error other =>
      constructor
      · intro h
        cases h
        rfl
      · intro h
        cases h
        rfl
  | ok => exact iff_of_false nofun nofun

theorem declares_of_ofDocument (h : ofDocument document = .ok catalog) : Declares document catalog := by
  obtain ⟨hacceptable, rfl⟩ := ofDocument_eq_ok.mp h
  generalize hbuilt :
    ({ empty with aspects := .ofList document.aspects } : Catalog).insertAll document.commands = catalog
  have hentries : catalog.commands.entries =
      Entries.ofList (document.commands.map fun command => (command.name, command)) := by
    rw [← hbuilt]
    exact entries_insertAll _ _
  have hkeys : (document.commands.map fun command => (command.name, command)).map Prod.fst =
      document.commands.map (·.name) := List.map_map
  have hvalues : (document.commands.map fun command => (command.name, command)).map Prod.snd =
      document.commands := by
    rw [List.map_map]
    exact List.map_id _
  have hperm : catalog.commands.entries.Perm
      (document.commands.map fun command => (command.name, command)) := by
    rw [hentries]
    exact Entries.perm_ofList (hkeys ▸ hacceptable.distinct)
  have hlisting : catalog.listing.Perm document.commands := hvalues ▸ hperm.map Prod.snd
  refine ⟨fun name command => ?_, hlisting, ?_, ?_, ?_, fun name => ?_⟩
  · have hmem : (name, command) ∈ catalog.commands.entries ↔
        command ∈ document.commands ∧ command.name = name := by
      rw [hperm.mem_iff, List.mem_map]
      constructor
      · rintro ⟨other, hother, heq⟩
        obtain ⟨rfl, rfl⟩ := Prod.mk.inj heq
        exact ⟨hother, rfl⟩
      · rintro ⟨hcommand, rfl⟩
        exact ⟨command, hcommand, rfl⟩
    rw [← hmem]
    exact ⟨Entries.mem_of_find?, catalog.commands.ascending.find?_eq_some⟩
  · exact (List.length_map Prod.snd).symm.trans hlisting.length_eq
  · exact hkeys ▸ hperm.map Prod.fst
  · exact List.pairwise_map.mpr catalog.commands.ascending
  · rw [← hbuilt, aspects_insertAll]
    exact AspectSet.contains_extend.trans (or_iff_left nofun)

/-- A document is admitted exactly when its commands have names that are not blank and pairwise different, and
well-formed delimiters.  The catalog then holds every command of the document under its name and nothing else,
as many as the document lists, in ascending order of the names, and the listed aspect names.  A document that
is not admitted is refused for the first command that may not stand behind those in front of it. -/
theorem admission_is_exact (document : Document) :
    ((∃ catalog, ofDocument document = .ok catalog) ↔ Acceptable document.commands) ∧
    (∀ catalog, ofDocument document = .ok catalog → Declares document catalog) ∧
    ∀ refusal, ofDocument document = .error refusal ↔
      ∃ before command after, document.commands = before ++ command :: after ∧ Acceptable before ∧
        Refused before command refusal := by
  refine ⟨⟨?_, fun h => ?_⟩, fun catalog => declares_of_ofDocument, fun refusal => ?_⟩
  · rintro ⟨catalog, hadmitted⟩
    exact (ofDocument_eq_ok.mp hadmitted).1
  · exact ⟨_, ofDocument_eq_ok.mpr ⟨h, rfl⟩⟩
  · exact ofDocument_eq_error.trans checkCommands_eq_error

/-- The base catalog behind which a name is taken again, by a command whose delimiter is not well formed
either, and a name is blank. -/
def crowdedDocument : Document :=
  { baseDocument with
    commands := baseDocument.commands ++
      [⟨"rest", none, .string ⟨"inn", true⟩ { delimiter := some "(" }⟩,
        ⟨"\u3000", none, .boolean ⟨"nap", true⟩ none⟩] }

theorem admission_is_exact_crowded :
    (∃ catalog, ofDocument baseDocument = .ok catalog ∧ Acceptable baseDocument.commands ∧
      catalog.find? "say" = some ⟨"say", none, .string ⟨"line", true⟩ {}⟩ ∧ catalog.find? "walk" = none ∧
      catalog.size = 2 ∧ catalog.aspects.contains "forge" = true) ∧
    ofDocument crowdedDocument = .error (.duplicate "rest") ∧ ¬ Acceptable crowdedDocument.commands := by
  obtain ⟨hadmits, hdeclares, -⟩ := admission_is_exact baseDocument
  obtain ⟨hadmits', -, hrefuses⟩ := admission_is_exact crowdedDocument
  have hadmitted : ofDocument baseDocument = .ok _ := rfl
  have hacceptable := hadmits.mp ⟨_, hadmitted⟩
  have hholds := hdeclares _ hadmitted
  have hrefused : ofDocument crowdedDocument = .error (.duplicate "rest") :=
    (hrefuses _).mpr ⟨baseDocument.commands, _, _, rfl, hacceptable, .duplicate (by decide) (by decide)⟩
  refine ⟨⟨_, hadmitted, hacceptable, ?_, ?_, hholds.size, ?_⟩, hrefused, fun h => ?_⟩
  · exact (hholds.find "say" _).mpr ⟨.tail _ (.head _), rfl⟩
  · refine Option.eq_none_iff_forall_ne_some.mpr fun command hfind => ?_
    obtain ⟨hmem, hname⟩ := (hholds.find "walk" command).mp hfind
    have hnames : "walk" ∈ baseDocument.commands.map (·.name) := hname ▸ List.mem_map_of_mem hmem
    exact absurd hnames (by decide)
  · exact (hholds.aspects "forge").mpr (.head _)
  · obtain ⟨_, hcatalog⟩ := hadmits'.mpr h
    rw [hrefused] at hcatalog
    cases hcatalog

end CommandForms.Catalog
