import CommandForms.Dialogue.Run
import CommandForms.Session.Request

/-!
# Sessions

A session reads a line, does what it asks for, and reads the next one, until it is asked to quit or the
reading of a line is cancelled.  A question of a command that is cancelled ends that command only.
-/

namespace CommandForms.Session

open CommandForms.Dialogue

inductive Flow
  | goOn
  | quit
deriving Repr, DecidableEq

/-- An answer of a session, and the terminal after it. -/
abbrev Served (α : Type) := Except Failure α × Terminal

def writeLines (texts : List String) (t : Terminal) : Served Flow :=
  match texts with
  | [] => (.ok .goOn, t)
  | text :: texts =>
      match t.writeLine text with
      | (.ok (), t) => writeLines texts t
      | (.error i, t) => (.error (.interrupted i), t)

def runCommand (catalog : Catalog) (command : Command) (arguments : String) (t : Terminal) :
    Served Flow :=
  match resolve arguments command.schema catalog.aspects t with
  | (.ok value, t) => writeLines [value.text] t
  | (.error e, t) => (.error e, t)

def serve (catalog : Catalog) (request : Request) (t : Terminal) : Served Flow :=
  match request with
  | .nothing => (.ok .goOn, t)
  | .quit => (.ok .quit, t)
  | .help => writeLines (helpLines catalog) t
  | .names => writeLines [namesLine catalog] t
  | .command name arguments =>
      match catalog.find? name with
      | none => writeLines [unknownLine name] t
      | some command => runCommand catalog command arguments t

/-- Does what a line asks for; a command that is cancelled is given up. -/
def step (catalog : Catalog) (line : String) (t : Terminal) : Served Flow :=
  match serve catalog (.ofLine line) t with
  | (.error (.interrupted .cancelled), t) => writeLines ["cancelled"] t
  | served => served

theorem unread_writeLines_le (texts : List String) (t : Terminal) :
    (writeLines texts t).2.unread.length ≤ t.unread.length := by
  induction texts generalizing t with
  | nil => exact Nat.le_refl _
  | cons text texts ih =>
      have h := t.unread_writeLine text
      simp only [writeLines]
      split <;> rename_i t' hcall <;> rw [hcall] at h
      · exact h ▸ ih t'
      · exact h ▸ Nat.le_refl _

theorem unread_serve_le (catalog : Catalog) (request : Request) (t : Terminal) :
    (serve catalog request t).2.unread.length ≤ t.unread.length := by
  cases request with
  | nothing => exact Nat.le_refl _
  | quit => exact Nat.le_refl _
  | help => exact unread_writeLines_le _ t
  | names => exact unread_writeLines_le _ t
  | command name arguments =>
      simp only [serve]
      split
      · exact unread_writeLines_le _ t
      · rename_i command _
        have h := unread_resolve_le arguments command.schema catalog.aspects t
        simp only [runCommand]
        split <;> rename_i hresolve <;> rw [hresolve] at h
        · exact Nat.le_trans (unread_writeLines_le _ _) h
        · exact h

theorem unread_step_le (catalog : Catalog) (line : String) (t : Terminal) :
    (step catalog line t).2.unread.length ≤ t.unread.length := by
  have h := unread_serve_le catalog (.ofLine line) t
  simp only [step]
  split
  · rename_i hserve
    rw [hserve] at h
    exact Nat.le_trans (unread_writeLines_le _ _) h
  · exact h

def run (catalog : Catalog) (prompt : String) (t : Terminal) : Served Unit :=
  match _hread : t.readLine prompt (some (menu catalog)) with
  | (.error .cancelled, t') => (.ok (), t')
  | (.error i, t') => (.error (.interrupted i), t')
  | (.ok line, t') =>
      match _hstep : step catalog line t' with
      | (.ok .goOn, t'') => run catalog prompt t''
      | (.ok .quit, t'') => (.ok (), t'')
      | (.error e, t'') => (.error e, t'')
termination_by t.unread.length
decreasing_by
  have hlt := Terminal.unread_readLine_lt _hread
  have hle := unread_step_le catalog line t'
  rw [_hstep] at hle
  exact Nat.lt_of_le_of_lt hle hlt

end CommandForms.Session
