import CommandForms.Completion.Source
import CommandForms.Dialogue.YesNo
import CommandForms.Numeral.Integer

/-!
# Terminals

A line-oriented terminal with the lines that its operator will type.  Four calls drive it: write a line,
read a line, ask a yes-or-no question, and erase lines.  It logs what the calls do; the transcript, the
screen and the output stream are views of the log.  A terminal may be set to fail at one of its calls.
-/

namespace CommandForms.Dialogue

open CommandForms.Numeral (integerText)

inductive Event
  | wrote (text : String)
  | asked (prompt : String) (source : Option CompletionSource)
  | typed (prompt line : String)
  | questioned (prompt : String) (default : Option Bool)
  | unclear (prompt : String) (default : Option Bool) (answer : String)
  | answered (prompt : String) (default : Option Bool) (answer : String)
  | erased (count : Nat)

/-- Why a call gives no answer: the operator cancelled it, or the terminal failed at it. -/
inductive Interruption
  | cancelled
  | failed (call : Nat)
deriving Repr, DecidableEq

def Interruption.message : Interruption → String
  | .cancelled => "prompt cancelled"
  | .failed call => "terminal error: failed at call " ++ integerText call

/-- A terminal.  The log has the last event first.  A line equal to the cancel line cancels the call that
reads it. -/
structure Terminal where
  unread : List String
  cancelLine : Option String := some "^C"
  failAt : Option Nat := none
  calls : Nat := 0
  log : List Event := []

namespace Terminal

/-- The outcome of a call, and the terminal after it. -/
abbrev Outcome (α : Type) := Except Interruption α × Terminal

def note (t : Terminal) (event : Event) : Terminal :=
  { t with log := event :: t.log }

/-- Begins a call; the call at which the terminal fails does nothing. -/
def begin (t : Terminal) : Outcome Unit :=
  let t' := { t with calls := t.calls + 1 }
  if t.failAt = some t'.calls then (.error (.failed t'.calls), t') else (.ok (), t')

def writeLine (text : String) (t : Terminal) : Outcome Unit :=
  match t.begin with
  | (.ok (), t) => (.ok (), t.note (.wrote text))
  | failure => failure

def eraseLines (count : Nat) (t : Terminal) : Outcome Unit :=
  match t.begin with
  | (.ok (), t) => (.ok (), t.note (.erased count))
  | failure => failure

def takeLine (t : Terminal) : Outcome String :=
  match t.unread with
  | [] => (.error .cancelled, t)
  | line :: unread =>
      let t := { t with unread }
      if t.cancelLine = some line then (.error .cancelled, t) else (.ok line, t)

theorem unread_takeLine_lt {t t' : Terminal} {line : String} (h : t.takeLine = (.ok line, t')) :
    t'.unread.length < t.unread.length := by
  simp only [takeLine] at h
  split at h
  · simp at h
  · rename_i hunread
    split at h
    · simp at h
    · simp only [Prod.mk.injEq] at h
      simp [← h.2, hunread]

/-- Reads a line, with completions from a source. -/
def readLine (prompt : String) (source : Option CompletionSource) (t : Terminal) : Outcome String :=
  match t.begin with
  | (.error e, t) => (.error e, t)
  | (.ok (), t) =>
      match (t.note (.asked prompt source)).takeLine with
      | (.ok line, t) => (.ok line, t.note (.typed prompt line))
      | failure => failure

/-- Takes lines until one answers a question. -/
def takeAnswer (prompt : String) (default : Option Bool) (t : Terminal) : Outcome Bool :=
  match _htake : t.takeLine with
  | (.error e, t) => (.error e, t)
  | (.ok line, t') =>
      match yesNo? default line with
      | some yes => (.ok yes, t'.note (.answered prompt default line))
      | none => takeAnswer prompt default (t'.note (.unclear prompt default line))
termination_by t.unread.length
decreasing_by
  have := unread_takeLine_lt _htake
  exact this

/-- Asks a yes-or-no question, again and again until an answer is clear. -/
def confirm (prompt : String) (default : Option Bool) (t : Terminal) : Outcome Bool :=
  match t.begin with
  | (.error e, t) => (.error e, t)
  | (.ok (), t) => (t.note (.questioned prompt default)).takeAnswer prompt default

/-! ## Calls take lines and give none back -/

@[simp]
theorem unread_note (t : Terminal) (event : Event) : (t.note event).unread = t.unread := rfl

@[simp]
theorem unread_begin (t : Terminal) : t.begin.2.unread = t.unread := by
  simp only [begin]
  split <;> rfl

theorem unread_begin_of_eq {t t' : Terminal} {r : Except Interruption Unit}
    (h : t.begin = (r, t')) : t'.unread = t.unread := by
  rw [← unread_begin t, h]

theorem unread_writeLine (text : String) (t : Terminal) :
    (t.writeLine text).2.unread = t.unread := by
  simp only [writeLine]
  split
  · rename_i h
    exact (unread_note _ _).trans (unread_begin_of_eq h)
  · exact unread_begin t

theorem unread_eraseLines (count : Nat) (t : Terminal) :
    (t.eraseLines count).2.unread = t.unread := by
  simp only [eraseLines]
  split
  · rename_i h
    exact (unread_note _ _).trans (unread_begin_of_eq h)
  · exact unread_begin t

theorem unread_takeLine_le (t : Terminal) : t.takeLine.2.unread.length ≤ t.unread.length := by
  simp only [takeLine]
  split
  · simp
  · rename_i hunread
    split <;> simp [hunread]

theorem unread_readLine_lt {prompt : String} {source : Option CompletionSource} {t t' : Terminal}
    {line : String} (h : t.readLine prompt source = (.ok line, t')) :
    t'.unread.length < t.unread.length := by
  simp only [readLine] at h
  split at h
  · simp at h
  · rename_i hbegin
    split at h
    · rename_i htake
      simp only [Prod.mk.injEq] at h
      have hlt := unread_takeLine_lt htake
      rw [unread_note, unread_begin_of_eq hbegin] at hlt
      rw [← h.2, unread_note]
      exact hlt
    · rename_i hfail
      exact absurd h (hfail line t')

theorem unread_takeAnswer_lt {prompt : String} {default : Option Bool} {t t' : Terminal} {yes : Bool}
    (h : t.takeAnswer prompt default = (.ok yes, t')) : t'.unread.length < t.unread.length := by
  fun_induction takeAnswer prompt default t with
  | case1 => simp at h
  | case2 t line t₁ htake _ hyes =>
    simp only [Prod.mk.injEq] at h
    rw [← h.2, unread_note]
    exact unread_takeLine_lt htake
  | case3 t line t₁ htake hyes ih =>
    have hlt := ih h
    rw [unread_note] at hlt
    exact Nat.lt_trans hlt (unread_takeLine_lt htake)

theorem unread_confirm_lt {prompt : String} {default : Option Bool} {t t' : Terminal} {yes : Bool}
    (h : t.confirm prompt default = (.ok yes, t')) : t'.unread.length < t.unread.length := by
  simp only [confirm] at h
  split at h
  · simp at h
  · rename_i hbegin
    have hlt := unread_takeAnswer_lt h
    rw [unread_note, unread_begin_of_eq hbegin] at hlt
    exact hlt

theorem unread_takeAnswer_le (prompt : String) (default : Option Bool) (t : Terminal) :
    (t.takeAnswer prompt default).2.unread.length ≤ t.unread.length := by
  fun_induction takeAnswer prompt default t with
  | case1 t e t₁ htake =>
    have hle := unread_takeLine_le t
    rw [htake] at hle
    exact hle
  | case2 t line t₁ htake _ hyes =>
    have hle := unread_takeLine_le t
    rw [htake] at hle
    exact hle
  | case3 t line t₁ htake hyes ih =>
    rw [unread_note] at ih
    exact Nat.le_trans ih (Nat.le_of_lt (unread_takeLine_lt htake))

theorem unread_readLine_le (prompt : String) (source : Option CompletionSource) (t : Terminal) :
    (t.readLine prompt source).2.unread.length ≤ t.unread.length := by
  simp only [readLine]
  split
  · rename_i hbegin
    exact Nat.le_of_eq (congrArg List.length (unread_begin_of_eq hbegin))
  · rename_i t₁ hbegin
    have hle := unread_takeLine_le (t₁.note (.asked prompt source))
    rw [unread_note, unread_begin_of_eq hbegin] at hle
    split
    · rename_i htake
      rw [htake] at hle
      exact hle
    · exact hle

theorem unread_confirm_le (prompt : String) (default : Option Bool) (t : Terminal) :
    (t.confirm prompt default).2.unread.length ≤ t.unread.length := by
  simp only [confirm]
  split
  · rename_i hbegin
    exact Nat.le_of_eq (congrArg List.length (unread_begin_of_eq hbegin))
  · rename_i t₁ hbegin
    have hle := unread_takeAnswer_le prompt default (t₁.note (.questioned prompt default))
    rw [unread_note, unread_begin_of_eq hbegin] at hle
    exact hle

/-! ## Views of the log -/

def answerText (prompt : String) (default : Option Bool) (answer : String) : String :=
  prompt ++ " " ++ yesNoHint default ++ " " ++ answer

def transcriptLine? : Event → Option String
  | .wrote text => some text
  | .typed prompt line => some (prompt ++ line)
  | .unclear prompt default answer => some (answerText prompt default answer)
  | .answered prompt default answer => some (answerText prompt default answer)
  | .asked .. | .questioned .. | .erased .. => none

def transcript (t : Terminal) : List String :=
  t.log.reverse.filterMap transcriptLine?

def showEvent (screen : List String) : Event → List String
  | .wrote text => screen ++ [text]
  | .typed prompt line => screen ++ [prompt ++ line]
  | .answered prompt default answer => screen ++ [answerText prompt default answer]
  | .erased count => screen.take (screen.length - count)
  | .asked .. | .questioned .. | .unclear .. => screen

/-- The lines on the screen, where the log started from a screen. -/
def screenFrom (start : List String) : List Event → List String
  | [] => start
  | event :: log => showEvent (screenFrom start log) event

def screen (t : Terminal) : List String :=
  screenFrom [] t.log

def erasures (t : Terminal) : List Nat :=
  t.log.reverse.filterMap fun
    | .erased count => some count
    | _ => none

def offeredSources (t : Terminal) : List (Option CompletionSource) :=
  t.log.reverse.filterMap fun
    | .asked _ source => some source
    | _ => none

def eraseLineCode : String := "\x1b[1A\x1b[2K\r"

def eventOutput : Event → String
  | .wrote text => text ++ "\n"
  | .unclear .. => eraseLineCode
  | .erased count => String.join (List.replicate count eraseLineCode)
  | .asked .. | .typed .. | .questioned .. | .answered .. => ""

def output (t : Terminal) : String :=
  String.join (t.log.reverse.map eventOutput)

end Terminal

end CommandForms.Dialogue
