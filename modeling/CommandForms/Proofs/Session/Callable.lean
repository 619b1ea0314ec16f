import CommandForms.Proofs.Catalog.Merge
import CommandForms.Proofs.Dialogue.Literals
import CommandForms.Proofs.Session.PasteBack

/-!
# Commands that a line calls

A session takes the first word of a line for the name of a command, unless it is one of its own words.  So
the commands that a line calls are those whose name is a single word other than these, and such a command is
called with every literal for its schema, however much space stands around it.
-/

namespace CommandForms.Session

open CommandForms.Dialogue (readArguments_eq_ok_iff resolveTurn)
open CommandForms.Json (Value)

variable {catalog : Catalog} {name arguments line : String} {command : Command} {value : Value}

/-- A name that a line may call: it has no blank, and the session has no use of its own for it. -/
structure CommandWord (name : String) : Prop where
  word : ∀ c ∈ name.toList, Text.isBlank c = false
  free : name ∉ ownWords

instance (name : String) : Decidable (CommandWord name) :=
  decidable_of_iff ((name.toList.all fun c => !Text.isBlank c) = true ∧ name ∉ ownWords)
    ⟨fun h => ⟨Text.not_blank_of_all h.1, h.2⟩,
      fun h => ⟨List.all_eq_true.mpr fun c hc => by rw [h.word c hc]; rfl, h.free⟩⟩

/-! ## Names and arguments in lines -/

theorem Request.ofLine_congr {line' : String}
    (h : Text.trimChars line.toList = Text.trimChars line'.toList) : ofLine line = ofLine line' := by
  unfold ofLine
  rw [h]

/-- A line of a name and arguments calls the command with the arguments, up to the blanks behind them. -/
theorem Request.ofLine_of_filled (hempty : name ≠ "") (hname : CommandWord name)
    (harguments : Text.trim arguments ≠ "") :
    ∃ rest, ofLine (name ++ " " ++ arguments) = .command name rest ∧
      Text.trim rest = Text.trim arguments := by
  obtain ⟨front, back, hchars, -, hback⟩ := Text.exists_append_trimChars arguments.toList
  have hfilled : Text.trimChars arguments.toList ≠ [] := fun hnil =>
    harguments (by rw [Text.trim, hnil, String.ofList_nil])
  have htrim : ∀ before, Text.trimChars (before ++ arguments.toList) =
      Text.trimChars (before ++ (front ++ Text.trimChars arguments.toList)) := by
    intro before
    conv => lhs; rw [hchars, ← List.append_assoc]
    exact Text.trimChars_append hback
  have hlast : ∀ c ∈ (front ++ Text.trimChars arguments.toList).getLast?, Text.isBlank c = false := by
    rw [List.getLast?_append_of_ne_nil _ hfilled]
    exact Text.isBlank_getLast?_trimChars
  refine ⟨String.ofList (front ++ Text.trimChars arguments.toList), ?_, ?_⟩
  · rw [← ofLine_append hempty hname.word hname.free hlast (List.append_ne_nil_of_right_ne_nil _ hfilled)]
    apply ofLine_congr
    simp only [String.toList_append, String.toList_ofList]
    exact htrim _
  · rw [Text.trim, Text.trim, String.toList_ofList]
    exact congrArg String.ofList (htrim []).symm

theorem Request.commandWord_of_ofLine (h : ofLine line = .command name arguments) : CommandWord name := by
  unfold ofLine at h
  dsimp only at h
  split at h
  · cases h
  · split at h
    · cases h
    · rename_i hends
      split at h
      · cases h
      · rename_i hhelp
        split at h
        · cases h
        · rename_i hcommands
          obtain ⟨hquit, hexit⟩ := not_or.mp hends
          cases h
          refine ⟨fun c hc => ?_, ?_⟩
          · rw [firstWord, String.toList_ofList] at hc
            simpa using List.mem_takeWhile_imp hc
          · simp [ownWords, hcommands, hhelp, hquit, hexit]

/-! ## Commands of loaded catalogs -/

/-- A command of the catalog of a text is called by a line of its name, a space and any literal for its
schema, if its name is a single word that is not one of the session's own: the session writes the text of
the value, does nothing else, and reads the next line.  No line calls a command of another name. -/
theorem command_is_called {format : Catalog.Format} {text : String}
    (hcatalog : Catalog.ofText format text = .ok catalog) (hfind : catalog.find? name = some command) :
    (CommandWord name → ∀ arguments value, Value.parse arguments = .ok value →
      validate value command.schema catalog.aspects = .ok () →
      (∀ t, step catalog (name ++ " " ++ arguments) t = writeLines [value.text] t) ∧
      ∀ prompt t t₁ t₂,
        t.readLine prompt (some (menu catalog)) = (.ok (name ++ " " ++ arguments), t₁) →
        t₁.writeLine value.text = (.ok (), t₂) → run catalog prompt t = run catalog prompt t₂) ∧
    ∀ line arguments, Request.ofLine line = .command name arguments → CommandWord name := by
  refine ⟨fun hname arguments value hparse hvalid => ?_, fun _ _ => Request.commandWord_of_ofLine⟩
  have hempty : name ≠ "" := (Catalog.Loaded.text hcatalog).name_ne_empty hfind
  have htrimmed : Value.parse (Text.trim arguments) = .ok value := Value.parse_trim hparse
  obtain ⟨rest, hline, hrest⟩ :=
    Request.ofLine_of_filled hempty hname (Value.ne_empty_of_parse htrimmed)
  have hdone : resolveTurn rest command.schema catalog.aspects = .done value := by
    rw [resolveTurn, readArguments_eq_ok_iff.mpr ⟨hrest ▸ htrimmed, hvalid⟩]
  have hstep := step_of_done hline hfind hdone
  exact ⟨hstep, fun prompt t t₁ t₂ hread => run_of_written hread (hstep t₁)⟩

/-- Commands of which lines call the last one only. -/
def restDocument : Catalog.Document :=
  { commands :=
      [⟨"quit", none, .boolean ⟨"quit", true⟩ none⟩, ⟨"big rest", none, .boolean ⟨"nap", true⟩ none⟩,
        ⟨"rest", none, .boolean ⟨"nap", true⟩ none⟩] }

def restCatalog : Catalog :=
  .insertAll .empty restDocument.commands

theorem ofText_rest : Catalog.ofText .json restDocument.text = .ok restCatalog :=
  Catalog.ofText_of_document restDocument (by decide) rfl

theorem command_is_called_rest :
    Catalog.ofText .json restDocument.text = .ok restCatalog ∧
    (CommandWord "rest" ∧ Value.parse " true\n" = .ok (.bool true) ∧
      (∀ t, step restCatalog ("rest" ++ " " ++ " true\n") t = writeLines ["true"] t) ∧
      ∃ t, t.transcript = ["> rest  true\n", "true"] ∧
        run restCatalog "> " { unread := ["rest" ++ " " ++ " true\n"] } = run restCatalog "> " t) ∧
    (∀ line arguments, Request.ofLine line ≠ .command "quit" arguments) ∧
    ∀ line arguments, Request.ofLine line ≠ .command "big rest" arguments := by
  have hparse : Value.parse " true\n" = .ok (.bool true) :=
    Value.parse_of_trim
      ⟨[' '], ['\n'], rfl, List.forall_mem_singleton.mpr rfl, List.forall_mem_singleton.mpr rfl⟩
      (Value.parse_text (Value.whole_bool true) (Value.ordered_bool true) (Nat.zero_lt_succ _))
  have hrest : restCatalog.find? "rest" = some ⟨"rest", none, .boolean ⟨"nap", true⟩ none⟩ := rfl
  have hquit : restCatalog.find? "quit" = some ⟨"quit", none, .boolean ⟨"quit", true⟩ none⟩ := rfl
  have hbig : restCatalog.find? "big rest" = some ⟨"big rest", none, .boolean ⟨"nap", true⟩ none⟩ := rfl
  have hname : CommandWord "rest" := by decide
  obtain ⟨hstep, hrun⟩ := (command_is_called ofText_rest hrest).1 hname _ _ hparse rfl
  refine ⟨ofText_rest, ⟨hname, hparse, hstep, _, ?_, hrun "> " _ _ _ rfl rfl⟩, fun _ _ h => ?_, fun _ _ h => ?_⟩
  · decide
  · exact absurd ((command_is_called ofText_rest hquit).2 _ _ h) (by decide)
  · exact absurd ((command_is_called ofText_rest hbig).2 _ _ h) (by decide)

/-- Not every command of a loaded catalog is called with every literal for its schema: a session quits at a
name that is its own word, and takes the first word of a longer name for a name that no command has. -/
theorem not_every_command_is_called :
    Catalog.ofText .json restDocument.text = .ok restCatalog ∧
    Value.parse "true" = .ok (.bool true) ∧
    (∃ command, restCatalog.find? "quit" = some command ∧
      validate (.bool true) command.schema restCatalog.aspects = .ok () ∧
      (∀ t, step restCatalog ("quit" ++ " " ++ "true") t = (.ok .quit, t)) ∧
      ¬ ∀ t, step restCatalog ("quit" ++ " " ++ "true") t = writeLines [(Value.bool true).text] t) ∧
    ∃ command, restCatalog.find? "big rest" = some command ∧
      validate (.bool true) command.schema restCatalog.aspects = .ok () ∧
      (∀ t, step restCatalog ("big rest" ++ " " ++ "true") t = writeLines [unknownLine "big"] t) ∧
      ¬ ∀ t, step restCatalog ("big rest" ++ " " ++ "true") t = writeLines [(Value.bool true).text] t := by
  have hparse : Value.parse "true" = .ok (.bool true) :=
    Value.parse_text (Value.whole_bool true) (Value.ordered_bool true) (Nat.zero_lt_succ _)
  have hquit : ∀ t, step restCatalog ("quit" ++ " " ++ "true") t = (.ok .quit, t) := by
    intro t
    rw [step_eq, show Request.ofLine _ = .quit by decide]
    rfl
  have hbig : ∀ t, step restCatalog ("big rest" ++ " " ++ "true") t = writeLines [unknownLine "big"] t := by
    intro t
    rw [step_eq, show Request.ofLine _ = .command "big" "rest true" by decide, serve_of_unknown rfl]
    exact afterServe_writeLines _ t
  refine ⟨ofText_rest, hparse, ⟨_, rfl, rfl, hquit, fun h => ?_⟩, _, rfl, rfl, hbig, fun h => ?_⟩
  · cases (hquit { unread := [] }).symm.trans (h _)
  · have hlines := congrArg (fun served => served.2.transcript) ((hbig { unread := [] }).symm.trans (h _))
    exact absurd hlines (by decide)

end CommandForms.Session
