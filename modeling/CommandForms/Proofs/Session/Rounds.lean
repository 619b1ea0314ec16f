import CommandForms.Proofs.Dialogue.LookAhead
import CommandForms.Proofs.Dialogue.Unbroken
import CommandForms.Proofs.Session.FailStop

/-!
# Rounds of a session

A session on a working terminal goes through rounds: it reads a line and does what the line asks for.  It
ends at the first line that asks to quit, or when the reading of a line is cancelled.  What a round does
makes no difference to the rounds after it: they are those of a new session on the lines that are left.
-/

namespace CommandForms.Session

open CommandForms.Dialogue
open CommandForms.Json (Value)

variable {catalog : Catalog} {prompt line : String} {t t₁ t' : Terminal}

/-! ## Lines that quit -/

/-- The first word of a line asks to quit. -/
def Quits (line : String) : Prop :=
  (firstWord (Text.trimChars line.toList)).1 ∈ ["quit", "exit"]

instance (line : String) : Decidable (Quits line) :=
  inferInstanceAs (Decidable (_ ∈ _))

theorem Request.ofLine_eq_quit : Request.ofLine line = .quit ↔ Quits line := by
  unfold Request.ofLine Quits
  dsimp only
  generalize (firstWord (Text.trimChars line.toList)).1 = name
  split
  · rename_i hempty
    subst hempty
    exact iff_of_false nofun (by decide)
  · split
    · rename_i hquit
      exact iff_of_true rfl (by simpa using hquit)
    · rename_i hquit
      refine iff_of_false ?_ (by simpa using hquit)
      split
      · exact nofun
      · split <;> exact nofun

/-! ## Lines that are done -/

/-- A working terminal after lines were written. -/
def said (texts : List String) (t : Terminal) : Terminal :=
  t.advance texts.length t.unread (texts.reverse.map .wrote)

@[simp]
theorem transcript_said (texts : List String) (t : Terminal) :
    (said texts t).transcript = t.transcript ++ texts := by
  rw [said, Terminal.transcript_advance, ← List.map_reverse, List.reverse_reverse, List.filterMap_map]
  exact congrArg (t.transcript ++ ·) (List.filterMap_some)

theorem said_cons (text : String) (texts : List String) (t : Terminal) :
    said (text :: texts) t = said texts (said [text] t) := by
  rw [said, List.length_cons, Nat.add_comm, List.reverse_cons, List.map_append]
  exact (Terminal.advance_advance _ _ _ _ _).symm

theorem writeLines_of_working (ht : t.failAt = none) (texts : List String) :
    writeLines texts t = (.ok .goOn, said texts t) := by
  induction texts generalizing t with
  | nil => rfl
  | cons text texts ih =>
      have hwrite : t.writeLine text = (.ok (), said [text] t) :=
        (Call.write text).perform_of_works (Terminal.works_of_working ht 1)
      rw [writeLines_cons, hwrite, said_cons text texts]
      exact ih ht

/-- How a line that does not quit is done: the session says something, or a command is finished with a value
or cancelled. -/
inductive Done (catalog : Catalog) (line : String) (t : Terminal) : Terminal → Prop
  | nothing (hline : Request.ofLine line = .nothing) : Done catalog line t t
  | help (hline : Request.ofLine line = .help) : Done catalog line t (said (helpLines catalog) t)
  | names (hline : Request.ofLine line = .names) : Done catalog line t (said [namesLine catalog] t)
  | unknown {name arguments : String} (hline : Request.ofLine line = .command name arguments)
      (hfind : catalog.find? name = none) : Done catalog line t (said [unknownLine name] t)
  | finished {name arguments : String} {command : Command} {value : Value} {t' : Terminal}
      (hline : Request.ofLine line = .command name arguments)
      (hfind : catalog.find? name = some command)
      (hresolve : resolve arguments command.schema catalog.aspects t = (.ok value, t')) :
      Done catalog line t (said [value.text] t')
  | cancelled {name arguments : String} {command : Command} {t' : Terminal}
      (hline : Request.ofLine line = .command name arguments)
      (hfind : catalog.find? name = some command)
      (hresolve : resolve arguments command.schema catalog.aspects t =
        (.error (.interrupted .cancelled), t')) :
      Done catalog line t (said ["cancelled"] t')

/-- On a working terminal the arguments of a command come to a value, or they are cancelled. -/
theorem exists_resolve {s : Schema} (hs : s.checkDelimiters = .ok ()) (ht : t.failAt = none) (raw : String)
    (aspects : AspectSet) :
    ∃ t', t'.failAt = none ∧ ((∃ value, resolve raw s aspects t = (.ok value, t')) ∨
      resolve raw s aspects t = (.error (.interrupted .cancelled), t')) := by
  have hconducted : Conducted AnyInterruption (resolve raw s aspects) t :=
    Dialogue.conducted_run aspects (resolveTurn raw s aspects) t
  obtain ⟨_, _, _, _, hadvance⟩ := hconducted.exists_advance ht
  refine ⟨(resolve raw s aspects t).2, hadvance ▸ ht, ?_⟩
  cases hresult : (resolve raw s aspects t).1 with
  | ok value => exact .inl ⟨value, Prod.ext hresult rfl⟩
  | error failure =>
      cases failure with
      | badDelimiter e => exact absurd hresult ((unbroken_resolveTurn hs aspects raw t).ending e)
      | interrupted i =>
          cases i with
          | cancelled => exact .inr (Prod.ext hresult rfl)
          | failed n => exact absurd hresult (hconducted.ne_failed ht n)

/-- A working terminal does every line, and the session goes on behind a line that does not quit. -/
theorem exists_step (hcatalog : ∀ command ∈ catalog.listing, command.schema.checkDelimiters = .ok ())
    (ht : t.failAt = none) (hline : ¬ Quits line) :
    ∃ t', step catalog line t = (.ok .goOn, t') ∧ Done catalog line t t' := by
  have hwrites : ∀ texts, afterServe (writeLines texts t) = (.ok .goOn, said texts t) := fun texts =>
    (afterServe_writeLines texts t).trans (writeLines_of_working ht texts)
  rw [step_eq]
  cases hrequest : Request.ofLine line with
  | nothing => exact ⟨t, rfl, .nothing hrequest⟩
  | quit => exact absurd (Request.ofLine_eq_quit.mp hrequest) hline
  | help => exact ⟨_, hwrites _, .help hrequest⟩
  | names => exact ⟨_, hwrites _, .names hrequest⟩
  | command name arguments =>
      cases hfind : catalog.find? name with
      | none =>
          rw [serve_of_unknown hfind]
          exact ⟨_, hwrites _, .unknown hrequest hfind⟩
      | some command =>
          rw [serve_of_known hfind]
          have hdelimiters := hcatalog command (List.mem_map_of_mem (Entries.mem_of_find? hfind))
          obtain ⟨t', hworking, ⟨value, hvalue⟩ | hcancelled⟩ :=
            exists_resolve hdelimiters ht arguments catalog.aspects
          · refine ⟨_, ?_, .finished hrequest hfind hvalue⟩
            rw [runCommand_eq, hvalue, afterResolve, afterServe_writeLines]
            exact writeLines_of_working hworking [value.text]
          · refine ⟨_, ?_, .cancelled hrequest hfind hcancelled⟩
            rw [runCommand_eq, hcancelled]
            exact writeLines_of_working hworking ["cancelled"]

/-! ## Rounds -/

/-- A session reads these lines at its prompt, one a round.  It is done with each of them, and none of them
quits.  Behind the last of these rounds the terminal is the other one. -/
inductive Rounds (catalog : Catalog) (prompt : String) : Terminal → List String → Terminal → Prop
  | nil (t : Terminal) : Rounds catalog prompt t [] t
  | cons {line : String} {lines : List String} {t t₁ t₂ t' : Terminal}
      (hread : t.readLine prompt (some (menu catalog)) = (.ok line, t₁)) (hline : ¬ Quits line)
      (hstep : step catalog line t₁ = (.ok .goOn, t₂)) (hrest : Rounds catalog prompt t₂ lines t') :
      Rounds catalog prompt t (line :: lines) t'

/-- A session ends at a prompt, with a line that quits or because the reading is cancelled. -/
def EndsAt (catalog : Catalog) (prompt : String) (t t' : Terminal) : Prop :=
  (∃ line, t.readLine prompt (some (menu catalog)) = (.ok line, t') ∧ Quits line) ∨
    t.readLine prompt (some (menu catalog)) = (.error .cancelled, t')

theorem run_of_endsAt (h : EndsAt catalog prompt t t') : run catalog prompt t = (.ok (), t') := by
  rw [run_eq]
  rcases h with ⟨line, hread, hquits⟩ | hread
  · have hstep : step catalog line t' = (.ok .quit, t') := by
      unfold step
      rw [Request.ofLine_eq_quit.mpr hquits]
      rfl
    rw [hread, afterRead, hstep]
    rfl
  · rw [hread]
    rfl

/-- A read at a prompt of a working terminal takes at most a line, and the terminal goes on working. -/
theorem working_of_readLine {r : Except Interruption String} {source : Option CompletionSource}
    (hread : t.readLine prompt source = (r, t₁)) (ht : t.failAt = none) :
    t₁.failAt = none ∧ t₁.cancelLine = t.cancelLine ∧ t₁.unread = t.unread.drop 1 := by
  have hperform := (Call.read prompt source).perform_of_works (Terminal.works_of_working ht 1)
  obtain ⟨_, rfl⟩ := Prod.mk.inj (hread.symm.trans hperform)
  exact ⟨ht, rfl, List.drop_one.symm⟩

theorem working_of_step {t₂ : Terminal} {r : Except Failure Flow} (hstep : step catalog line t₁ = (r, t₂))
    (ht : t₁.failAt = none) :
    t₂.failAt = none ∧ t₂.cancelLine = t₁.cancelLine ∧ ∃ read, t₁.unread = read ++ t₂.unread := by
  obtain ⟨read, _, _, hread, hadvance⟩ := (conducted_step catalog line t₁).exists_advance ht
  rw [hstep] at hread hadvance
  have hworking := congrArg Terminal.failAt hadvance
  have hcancel := congrArg Terminal.cancelLine hadvance
  exact ⟨hworking.trans ht, hcancel, read, hread⟩

/-- A session on a working terminal goes through rounds until it ends. -/
theorem exists_rounds (hcatalog : ∀ command ∈ catalog.listing, command.schema.checkDelimiters = .ok ())
    (prompt : String) (ht : t.failAt = none) :
    ∃ lines last t', Rounds catalog prompt t lines last ∧ EndsAt catalog prompt last t' ∧
      run catalog prompt t = (.ok (), t') := by
  -- Every round takes a line.
  induction hlength : t.unread.length using Nat.strongRecOn generalizing t with
  | ind n ih =>
      subst hlength
      obtain ⟨r, t₁, hread⟩ : ∃ r t₁, t.readLine prompt (some (menu catalog)) = (r, t₁) := ⟨_, _, rfl⟩
      obtain ⟨ht₁, -, -⟩ := working_of_readLine hread ht
      cases r with
      | error i =>
          cases i with
          | cancelled =>
              have hend : EndsAt catalog prompt t t₁ := .inr hread
              exact ⟨[], t, t₁, .nil t, hend, run_of_endsAt hend⟩
          | failed k =>
              have hperform := (Call.read prompt (some (menu catalog))).perform_of_works
                (Terminal.works_of_working ht 1)
              obtain ⟨hreply, -⟩ := Prod.mk.inj (hperform.symm.trans hread)
              exact absurd hreply (Call.reply_ne_failed _ _ _ k)
      | ok line =>
          by_cases hquits : Quits line
          · have hend : EndsAt catalog prompt t t₁ := .inl ⟨line, hread, hquits⟩
            exact ⟨[], t, t₁, .nil t, hend, run_of_endsAt hend⟩
          · obtain ⟨t₂, hstep, -⟩ := exists_step hcatalog ht₁ hquits
            obtain ⟨ht₂, -, -⟩ := working_of_step hstep ht₁
            have hlt := Terminal.unread_readLine_lt hread
            have hle := unread_step_le catalog line t₁
            rw [hstep] at hle
            obtain ⟨lines, last, t', hrounds, hend, hrun⟩ := ih _ (Nat.lt_of_le_of_lt hle hlt) ht₂ rfl
            exact ⟨line :: lines, last, t', .cons hread hquits hstep hrounds, hend,
              (run_of_goOn hread hstep).trans hrun⟩

/-- A terminal on which nothing was written yet. -/
def blankTerminal (cancelLine : Option String) (unread : List String) : Terminal :=
  { unread, cancelLine }

/-- A session on a working terminal is made of its rounds.  It always ends, and it does so at the first line
that quits or at the first reading that is cancelled.  A first round that does not end it takes some of the
lines; what follows is a new session on the other ones: it adds what that one writes, and leaves unread what
that one leaves. -/
theorem session_is_its_rounds
    (hcatalog : ∀ command ∈ catalog.listing, command.schema.checkDelimiters = .ok ()) (prompt : String)
    (ht : t.failAt = none) :
    (∃ lines last t', Rounds catalog prompt t lines last ∧ EndsAt catalog prompt last t' ∧
      run catalog prompt t = (.ok (), t')) ∧
    ∀ line t₁, t.readLine prompt (some (menu catalog)) = (.ok line, t₁) → ¬ Quits line →
      ∃ t₂ k, step catalog line t₁ = (.ok .goOn, t₂) ∧ Done catalog line t₁ t₂ ∧
        0 < k ∧ t₂.unread = t.unread.drop k ∧
        (run catalog prompt t).2.transcript = t₂.transcript ++
          (run catalog prompt (blankTerminal t.cancelLine (t.unread.drop k))).2.transcript ∧
        (run catalog prompt t).2.unread =
          (run catalog prompt (blankTerminal t.cancelLine (t.unread.drop k))).2.unread := by
  refine ⟨exists_rounds hcatalog prompt ht, fun line t₁ hread hquits => ?_⟩
  obtain ⟨ht₁, hcancel₁, hunread₁⟩ := working_of_readLine hread ht
  obtain ⟨t₂, hstep, hdone⟩ := exists_step hcatalog ht₁ hquits
  obtain ⟨ht₂, hcancel₂, read, hunread₂⟩ := working_of_step hstep ht₁
  have hleft : t₂.unread = t.unread.drop (1 + read.length) := by
    rw [← List.drop_drop, ← hunread₁, hunread₂, List.drop_left]
  have halike : RunsAlike (run catalog prompt) t₂
      (blankTerminal t.cancelLine (t.unread.drop (1 + read.length))) (run catalog prompt t₂).2.unread :=
    (conducted_run catalog prompt t₂).runsAlike ht₂ rfl (hcancel₁.symm.trans hcancel₂.symm) hleft.symm
  obtain ⟨lines, hlines, hfresh⟩ := halike.transcript
  refine ⟨t₂, 1 + read.length, hstep, hdone, Nat.add_pos_left Nat.one_pos _, hleft, ?_, ?_⟩
  · rw [run_of_goOn hread hstep, hlines, hfresh]
    rfl
  · rw [run_of_goOn hread hstep, halike.unread]

theorem session_is_its_rounds_say :
    (∃ t', run lineCatalog "> " (blankTerminal "^C" ["say", "^C", "quit", "say"]) = (.ok (), t')) ∧
    (run lineCatalog "> " (blankTerminal "^C" ["say", "^C", "quit", "say"])).2.transcript =
      ["> say", "cancelled", "> quit"] ∧
    (run lineCatalog "> " (blankTerminal "^C" ["say", "^C", "quit", "say"])).2.unread = ["say"] := by
  have hcatalog : ∀ command ∈ lineCatalog.listing, command.schema.checkDelimiters = .ok () := by
    intro command hmem
    obtain rfl := List.mem_singleton.mp hmem
    rfl
  obtain ⟨⟨_, _, t', _, _, hrun⟩, hrounds⟩ :=
    session_is_its_rounds (t := blankTerminal "^C" ["say", "^C", "quit", "say"]) hcatalog "> " rfl
  obtain ⟨t₂, k, hstep, -, -, hleft, htranscript, hunread⟩ := hrounds "say" _ rfl (by decide)
  obtain ⟨-, rfl⟩ := Prod.mk.inj (hstep.symm.trans (step_say rfl))
  rw [← hleft] at htranscript hunread
  have hquit : EndsAt lineCatalog "> " (blankTerminal "^C" ["quit", "say"]) _ :=
    .inl ⟨"quit", rfl, by decide⟩
  have hfresh := run_of_endsAt hquit
  refine ⟨⟨t', hrun⟩, htranscript.trans ?_, hunread.trans ?_⟩
  · exact congrArg (fun ending => ["> say", "cancelled"] ++ ending.2.transcript) hfresh
  · exact congrArg (·.2.unread) hfresh

end CommandForms.Session
