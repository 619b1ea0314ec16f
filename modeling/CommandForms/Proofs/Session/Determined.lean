import CommandForms.Proofs.Dialogue.Determined
import CommandForms.Session.Loop

/-!
# Sessions determined by replies

What a session does on a terminal is determined by the replies to its calls.  A session outlives a call that
is cancelled, but a failure of the terminal is fatal to it, in the conversations of its commands and outside
them.
-/

namespace CommandForms.Session

open CommandForms.Dialogue
open CommandForms.Json (Value)

variable {catalog : Catalog} {prompt name : String} {command : Command} {t : Terminal}

def Failed (i : Interruption) : Prop :=
  ∃ n, i = .failed n

/-! ## What follows what -/

/-- What follows a line that was to be written before other lines. -/
def afterWrite (texts : List String) : Terminal.Outcome Unit → Served Flow
  | (.ok _, t) => writeLines texts t
  | (.error i, t) => (.error (.interrupted i), t)

theorem writeLines_cons (text : String) (texts : List String) (t : Terminal) :
    writeLines (text :: texts) t = afterWrite texts (t.writeLine text) := by
  rw [writeLines]
  rcases t.writeLine text with ⟨_ | _, _⟩ <;> rfl

/-- What follows the arguments of a command. -/
def afterResolve : Except Failure Value × Terminal → Served Flow
  | (.ok value, t) => writeLines [value.text] t
  | (.error e, t) => (.error e, t)

theorem runCommand_eq (catalog : Catalog) (command : Command) (arguments : String) (t : Terminal) :
    runCommand catalog command arguments t =
      afterResolve (resolve arguments command.schema catalog.aspects t) := by
  unfold runCommand
  rcases resolve arguments command.schema catalog.aspects t with ⟨_ | _, _⟩ <;> rfl

theorem serve_of_unknown (hfind : catalog.find? name = none) (arguments : String) :
    serve catalog (.command name arguments) = writeLines [unknownLine name] := by
  funext t
  unfold serve
  dsimp only
  rw [hfind]

theorem serve_of_known (hfind : catalog.find? name = some command) (arguments : String) :
    serve catalog (.command name arguments) = runCommand catalog command arguments := by
  funext t
  unfold serve
  dsimp only
  rw [hfind]

/-- What follows a request: a command that was cancelled is given up. -/
def afterServe : Served Flow → Served Flow
  | (.error (.interrupted .cancelled), t) => writeLines ["cancelled"] t
  | served => served

theorem step_eq (catalog : Catalog) (line : String) (t : Terminal) :
    step catalog line t = afterServe (serve catalog (.ofLine line) t) := by
  unfold step
  rcases serve catalog (.ofLine line) t with ⟨(_ | _) | _, _⟩ <;> rfl

def afterStep (catalog : Catalog) (prompt : String) : Served Flow → Served Unit
  | (.ok .goOn, t) => run catalog prompt t
  | (.ok .quit, t) => (.ok (), t)
  | (.error e, t) => (.error e, t)

/-- What follows the reading of a line. -/
def afterRead (catalog : Catalog) (prompt : String) : Terminal.Outcome String → Served Unit
  | (.ok line, t) => afterStep catalog prompt (step catalog line t)
  | (.error .cancelled, t) => (.ok (), t)
  | (.error (.failed n), t) => (.error (.interrupted (.failed n)), t)

theorem run_eq (catalog : Catalog) (prompt : String) (t : Terminal) :
    run catalog prompt t = afterRead catalog prompt (t.readLine prompt (some (menu catalog))) := by
  rw [run]
  rcases t.readLine prompt (some (menu catalog)) with ⟨(_ | n) | line, t'⟩
  · rfl
  · rfl
  · dsimp only [afterRead]
    rcases step catalog line t' with ⟨_ | (_ | _), _⟩ <;> rfl

theorem run_of_goOn {line : String} {t' t'' : Terminal}
    (hread : t.readLine prompt (some (menu catalog)) = (.ok line, t'))
    (hstep : step catalog line t' = (.ok .goOn, t'')) : run catalog prompt t = run catalog prompt t'' := by
  rw [run_eq, hread, afterRead, hstep]
  rfl

theorem run_of_written {line text : String} {t' t'' : Terminal}
    (hread : t.readLine prompt (some (menu catalog)) = (.ok line, t'))
    (hstep : step catalog line t' = writeLines [text] t') (hwrite : t'.writeLine text = (.ok (), t'')) :
    run catalog prompt t = run catalog prompt t'' := by
  refine run_of_goOn hread ?_
  rw [hstep, writeLines, hwrite]
  rfl

/-! ## Writing is not cancelled -/

theorem writeLine_ne_cancelled (text : String) (t : Terminal) :
    (t.writeLine text).1 ≠ .error .cancelled := by
  unfold Terminal.writeLine
  split
  · exact nofun
  · unfold Terminal.begin
    dsimp only
    split <;> exact nofun

theorem writeLines_ne_cancelled (texts : List String) (t : Terminal) :
    (writeLines texts t).1 ≠ .error (.interrupted .cancelled) := by
  induction texts generalizing t with
  | nil => exact nofun
  | cons text texts ih =>
      unfold writeLines
      split
      · exact ih _
      · rename_i i t' hwrite
        intro hcancelled
        cases hcancelled
        exact writeLine_ne_cancelled text t (congrArg Prod.fst hwrite)

theorem afterServe_writeLines (texts : List String) (t : Terminal) :
    afterServe (writeLines texts t) = writeLines texts t := by
  have hne := writeLines_ne_cancelled texts t
  rcases hwrites : writeLines texts t with ⟨((_ | n) | e) | flow, t'⟩
  · exact absurd (congrArg Prod.fst hwrites) hne
  · rfl
  · rfl
  · rfl

/-! ## Determined by replies -/

theorem conducted_writeLines (texts : List String) (t : Terminal) :
    Conducted AnyInterruption (writeLines texts) t := by
  induction texts generalizing t with
  | nil => exact .of_end (fun _ => rfl) nofun
  | cons text texts ih =>
      refine .of_call (.write text) (afterWrite texts) (writeLines_cons text texts) (fun _ _ _ => rfl)
        fun reply t₁ _ => ?_
      cases reply with
      | error i => exact .inl ⟨i, rfl, fun _ => rfl⟩
      | ok => exact .inr (ih t₁)

theorem conducted_runCommand (command : Command) (arguments : String) (t : Terminal) :
    Conducted AnyInterruption (runCommand catalog command arguments) t := by
  refine .bind afterResolve (runCommand_eq catalog command arguments) (fun _ _ _ => rfl)
    (Dialogue.conducted_run catalog.aspects (resolveTurn arguments command.schema catalog.aspects) t)
    (fun _ => id) fun r t₁ _ => ?_
  cases r with
  | error e => exact .inl ⟨e, rfl, fun _ => rfl⟩
  | ok value => exact .inr (conducted_writeLines _ t₁)

theorem conducted_serve (catalog : Catalog) (request : Request) (t : Terminal) :
    Conducted AnyInterruption (serve catalog request) t := by
  cases request with
  | nothing => exact .of_end (fun _ => rfl) nofun
  | quit => exact .of_end (fun _ => rfl) nofun
  | help => exact conducted_writeLines _ t
  | names => exact conducted_writeLines _ t
  | command name arguments =>
      cases hfind : catalog.find? name with
      | none =>
          rw [serve_of_unknown hfind]
          exact conducted_writeLines _ t
      | some command =>
          rw [serve_of_known hfind]
          exact conducted_runCommand command arguments t

theorem conducted_step (catalog : Catalog) (line : String) (t : Terminal) :
    Conducted Failed (step catalog line) t := by
  refine .bind afterServe (step_eq catalog line) ?_ (conducted_serve catalog (.ofLine line) t)
    (fun _ _ => trivial) fun r t₁ _ => ?_
  · rintro _ u ⟨n, rfl⟩
    rfl
  · cases r with
    | ok flow => exact .inr (.of_end (fun _ => rfl) nofun)
    | error e =>
        cases e with
        | badDelimiter e => exact .inl ⟨_, rfl, fun _ => rfl⟩
        | interrupted i =>
            cases i with
            | failed n => exact .inl ⟨_, rfl, fun _ => rfl⟩
            | cancelled => exact .inr ((conducted_writeLines ["cancelled"] t₁).mono fun _ _ => trivial)

/-- A whole session is determined by replies, and a failure of the terminal is fatal to it. -/
theorem conducted_run (catalog : Catalog) (prompt : String) (t : Terminal) :
    Conducted Failed (run catalog prompt) t := by
  -- Every round of a session that reaches the next one leaves fewer lines unread.
  induction hlength : t.unread.length using Nat.strongRecOn generalizing t with
  | ind n ih =>
      subst hlength
      refine .of_call (.read prompt (some (menu catalog))) (afterRead catalog prompt)
        (run_eq catalog prompt) ?_ fun reply t₁ hread => ?_
      · rintro _ u ⟨n, rfl⟩
        rfl
      · cases reply with
        | error i =>
            cases i with
            | cancelled => exact .inr (.of_end (fun _ => rfl) nofun)
            | failed n => exact .inl ⟨_, rfl, fun _ => rfl⟩
        | ok line =>
            refine .inr (.bind (afterStep catalog prompt) (fun _ => rfl) (fun _ _ _ => rfl)
              (conducted_step catalog line t₁) (fun _ => id) fun r t₂ hstep => ?_)
            cases r with
            | error e => exact .inl ⟨e, rfl, fun _ => rfl⟩
            | ok flow =>
                cases flow with
                | quit => exact .inr (.of_end (fun _ => rfl) nofun)
                | goOn =>
                    have hlt := Terminal.unread_readLine_lt hread
                    have hle := unread_step_le catalog line t₁
                    rw [hstep] at hle
                    exact .inr (ih _ (Nat.lt_of_le_of_lt hle hlt) t₂ rfl)

end CommandForms.Session
