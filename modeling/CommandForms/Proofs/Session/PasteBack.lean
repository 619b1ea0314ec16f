import CommandForms.Proofs.Catalog.Admitted
import CommandForms.Proofs.Dialogue.Printed
import CommandForms.Proofs.Session.Determined

/-!
# Printed values are typed again

A line of a command's name and of the text that the session has printed for a built value makes the session
print the same text once more.
-/

namespace CommandForms.Session

open CommandForms.Dialogue (Terminal construct resolve resolveTurn)
open CommandForms.Json (Value)

/-! ## Lines of a name and arguments -/

theorem firstWord_append {name : List Char} (h : ∀ c ∈ name, Text.isBlank c = false)
    (arguments : List Char) :
    firstWord (name ++ ' ' :: arguments) = (String.ofList name, String.ofList arguments) := by
  have hword : ∀ c ∈ name, (!Text.isBlank c) = true := fun c hc => by rw [h c hc]; rfl
  have hblank : (!Text.isBlank ' ') = false := by decide
  rw [firstWord, List.takeWhile_append_of_pos hword, List.dropWhile_append_of_pos hword,
    List.takeWhile_cons_of_neg (by rw [hblank]; decide), List.dropWhile_cons_of_neg (by rw [hblank]; decide),
    List.append_nil, List.tail_cons]

/-- A word that is not the session's own, in front of arguments, asks for the command of that name. -/
theorem Request.ofLine_append {name : String} {arguments : List Char} (hempty : name ≠ "")
    (hname : ∀ c ∈ name.toList, Text.isBlank c = false) (hown : name ∉ ownWords)
    (hlast : ∀ c ∈ arguments.getLast?, Text.isBlank c = false) (harguments : arguments ≠ []) :
    Request.ofLine (name ++ " " ++ String.ofList arguments) =
      .command name (String.ofList arguments) := by
  have hline : (name ++ " " ++ String.ofList arguments).toList = name.toList ++ ' ' :: arguments := by
    simp
  have htrim : Text.trimChars (name.toList ++ ' ' :: arguments) = name.toList ++ ' ' :: arguments := by
    apply Text.trimChars_of_ends
    · intro c hc
      rw [List.head?_append_of_ne_nil _ (by simpa using hempty)] at hc
      exact hname c (List.mem_of_mem_head? hc)
    · intro c hc
      rw [List.getLast?_append_of_ne_nil _ (List.cons_ne_nil _ _),
        List.getLast?_cons_of_ne_nil harguments] at hc
      exact hlast c hc
  simp only [ownWords, List.mem_cons, List.not_mem_nil, or_false, not_or] at hown
  obtain ⟨hcommands, hhelp, hquit, hexit⟩ := hown
  unfold Request.ofLine
  rw [hline, htrim, firstWord_append hname, String.ofList_toList]
  dsimp only
  rw [if_neg hempty, if_neg (not_or.mpr ⟨hquit, hexit⟩), if_neg hhelp, if_neg hcommands]

/-! ## Printed values -/

/-- A line whose arguments give a value by themselves makes the session write the value's text. -/
theorem step_of_done {catalog : Catalog} {name arguments line : String} {command : Command}
    {value : Value} (hline : Request.ofLine line = .command name arguments)
    (hfind : catalog.find? name = some command)
    (hvalue : resolveTurn arguments command.schema catalog.aspects = .done value) (t : Terminal) :
    step catalog line t = writeLines [value.text] t := by
  have hresolve : resolve arguments command.schema catalog.aspects t = (.ok value, t) := by
    rw [resolve, hvalue]
    exact Dialogue.Turn.run_of_ending? rfl
  rw [step_eq, hline, serve_of_known hfind, runCommand_eq, hresolve]
  exact afterServe_writeLines [value.text] t

/-- A value that has been built for a schema is what its text resolves to, on every terminal and without a
call.  At a session, a line of a command's name and of that text, for a command with that schema, makes the
session write the same text once more, do nothing else, and read the next line. -/
theorem built_value_is_taken_back {s : Schema} {aspects : AspectSet} {value : Value}
    {start finish : Terminal} (hdelimiters : s.checkDelimiters = .ok ())
    (hkeys : s.Everywhere Schema.DistinctKeys) (hdefaults : s.Everywhere Schema.DefaultFits)
    (hbuilt : construct s aspects start = (.ok value, finish)) (hdepth : value.depth ≤ 127) :
    (resolveTurn value.text s aspects = .done value ∧
      ∀ t, resolve value.text s aspects t = (.ok value, t)) ∧
    ∀ catalog name command, Catalog.find? catalog name = some command → command.schema = s →
      catalog.aspects = aspects → (catalog.Loaded ∨ name ≠ "") →
      (∀ c ∈ name.toList, Text.isBlank c = false) → name ∉ ownWords →
      (∀ t, step catalog (name ++ " " ++ value.text) t = writeLines [value.text] t) ∧
      ∀ prompt t t₁ t₂,
        t.readLine prompt (some (menu catalog)) = (.ok (name ++ " " ++ value.text), t₁) →
        t₁.writeLine value.text = (.ok (), t₂) → run catalog prompt t = run catalog prompt t₂ := by
  obtain ⟨hbuildable, -⟩ :=
    (Dialogue.orderly_constructTurn hdelimiters aspects start).finished value finish hbuilt
  have hdone := Dialogue.resolveTurn_text hkeys hdefaults hbuildable (Nat.lt_succ_of_le hdepth)
  refine ⟨⟨hdone, fun t => ?_⟩, ?_⟩
  · rw [resolve, hdone]
    exact Dialogue.Turn.run_of_ending? rfl
  · rintro catalog name command hfind rfl rfl hempty hname hown
    have hwhole := Dialogue.whole_of_buildable hbuildable
    -- Without a word in front of it, the text itself would be taken for the name of a command.
    have hword : name ≠ "" := by
      rcases hempty with hloaded | hempty
      · exact hloaded.name_ne_empty hfind
      · exact hempty
    have htext : value.chars ≠ [] := by
      obtain ⟨c, body, hchars, -⟩ := Value.chars_start hwhole
      exact hchars ▸ List.cons_ne_nil c body
    have hline : Request.ofLine (name ++ " " ++ value.text) = .command name value.text :=
      Request.ofLine_append hword hname hown (Value.not_blank_last hwhole) htext
    have hstep := step_of_done hline hfind hdone
    exact ⟨hstep, fun prompt t t₁ t₂ hread => run_of_written hread (hstep t₁)⟩

/-- Lines of any text, and an age of at least -5. -/
def letterSchema : Schema :=
  .object ⟨"letter", true⟩
    [("lines", .array ⟨"lines", true⟩ (.string ⟨"line", true⟩ {}) {}),
      ("age", .integer ⟨"age", true⟩ { min := some (-5) })]

/-- A letter of two lines with a quote, a backslash and a tab in them. -/
def letterValue : Value :=
  .object [("age", Dialogue.integerValue (-3)),
    ("lines", .array [.string "say \"hi\"\\", .string "tab\there"])]

theorem built_value_is_taken_back_letter :
    letterSchema.checkDelimiters = .ok () ∧ letterSchema.Everywhere Schema.DistinctKeys ∧
    letterSchema.Everywhere Schema.DefaultFits ∧ letterValue.depth ≤ 127 ∧
    (construct letterSchema .empty
      { unread := ["add", "say \"hi\"\\", "add", "tab\there", "done", "-3"] }).1 = .ok letterValue ∧
    letterValue.text =
      "\x7b\"age\":-3,\"lines\":[\"say \\\"hi\\\"\\\\\",\"tab\\there\"]\x7d" ∧
    (∀ t, resolve letterValue.text letterSchema .empty t = (.ok letterValue, t)) ∧
    ∀ t, step (Catalog.empty.insert ⟨"write", none, letterSchema⟩)
      ("write" ++ " " ++ letterValue.text) t = writeLines [letterValue.text] t := by
  have hdelimiters : letterSchema.checkDelimiters = .ok () := rfl
  have hdepth : letterValue.depth ≤ 127 := by decide
  have hkeys : letterSchema.Everywhere Schema.DistinctKeys := by
    simp [letterSchema, Schema.Everywhere, Schema.EverywhereIn, Schema.DistinctKeys]
  have hdefaults : letterSchema.Everywhere Schema.DefaultFits := by
    simp [letterSchema, Schema.Everywhere, Schema.EverywhereIn, Schema.DefaultFits]
  have hrun : (construct letterSchema .empty
      { unread := ["add", "say \"hi\"\\", "add", "tab\there", "done", "-3"] }).1 = .ok letterValue :=
    congrArg Prod.fst (Dialogue.Turn.run_eq_of_makeCalls 24 rfl)
  obtain ⟨⟨_, hresolve⟩, hsession⟩ :=
    built_value_is_taken_back hdelimiters hkeys hdefaults (Prod.ext hrun rfl) hdepth
  have hletters : ("write".toList.all fun c => Text.isBlank c = false) = true := by decide
  have hname : ∀ c ∈ "write".toList, Text.isBlank c = false := fun c hc =>
    of_decide_eq_true (List.all_eq_true.mp hletters c hc)
  refine ⟨hdelimiters, hkeys, hdefaults, hdepth, hrun, by decide, hresolve, ?_⟩
  exact (hsession _ "write" ⟨"write", none, letterSchema⟩ rfl rfl rfl (.inr (by decide)) hname
    (by decide)).1

end CommandForms.Session
