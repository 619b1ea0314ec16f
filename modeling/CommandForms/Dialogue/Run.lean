import CommandForms.Dialogue.Construct
import CommandForms.Dialogue.Terminal
import CommandForms.Json.Reader
import CommandForms.Validation.Check

/-!
# Conversations on a terminal

A turn is run on a terminal until it is done, or until it ends without a value: because a call gave no
answer, or because a delimiter is not well formed.  Every question that is answered takes a line from the
terminal, so every run ends.
-/

namespace CommandForms.Dialogue

open CommandForms.Json (Value)

/-- Why a conversation ends without a value. -/
inductive Failure
  | interrupted (i : Interruption)
  | badDelimiter (e : BadDelimiter)
deriving Repr, DecidableEq

namespace Turn

def height : Turn → Nat
  | .write _ _ next => next.height + 1
  | .erase _ _ next => next.height + 1
  | .done _ | .abort _ | .confirm .. | .ask .. => 0

/-- Runs a turn on a terminal, and every turn that follows it. -/
def run (aspects : AspectSet) (turn : Turn) (t : Terminal) : Except Failure Value × Terminal :=
  match turn with
  | .done value => (.ok value, t)
  | .abort e => (.error (.badDelimiter e), t)
  | .write text _ next =>
      match _hcall : t.writeLine text with
      | (.ok (), t') => next.run aspects t'
      | (.error i, t') => (.error (.interrupted i), t')
  | .erase lines mark next =>
      match _hcall : t.eraseLines (lines - mark) with
      | (.ok (), t') => next.run aspects t'
      | (.error i, t') => (.error (.interrupted i), t')
  | .confirm prompt default _ next =>
      match _hcall : t.confirm prompt default with
      | (.ok yes, t') => (next yes).run aspects t'
      | (.error i, t') => (.error (.interrupted i), t')
  | .ask question lines resume =>
      match _hcall : t.readLine question.prompt question.source? with
      | (.ok line, t') => (question.respond aspects line (lines + 1) resume).run aspects t'
      | (.error i, t') => (.error (.interrupted i), t')
termination_by (t.unread.length, turn.height)
decreasing_by
  · have hunread := t.unread_writeLine text
    rw [_hcall] at hunread
    rw [hunread]
    exact Prod.Lex.right _ (Nat.lt_succ_self _)
  · have hunread := t.unread_eraseLines (lines - mark)
    rw [_hcall] at hunread
    rw [hunread]
    exact Prod.Lex.right _ (Nat.lt_succ_self _)
  · exact Prod.Lex.left _ _ (Terminal.unread_confirm_lt _hcall)
  · exact Prod.Lex.left _ _ (Terminal.unread_readLine_lt _hcall)

theorem unread_run_le (aspects : AspectSet) (turn : Turn) (t : Terminal) :
    (turn.run aspects t).2.unread.length ≤ t.unread.length := by
  fun_induction run aspects turn t with
  | case1 => exact Nat.le_refl _
  | case2 => exact Nat.le_refl _
  | case3 t text lines next t' hcall ih =>
      have h := t.unread_writeLine text
      rw [hcall] at h
      exact h ▸ ih
  | case4 t text lines next i t' hcall =>
      have h := t.unread_writeLine text
      rw [hcall] at h
      exact h ▸ Nat.le_refl _
  | case5 t lines mark next t' hcall ih =>
      have h := t.unread_eraseLines (lines - mark)
      rw [hcall] at h
      exact h ▸ ih
  | case6 t lines mark next i t' hcall =>
      have h := t.unread_eraseLines (lines - mark)
      rw [hcall] at h
      exact h ▸ Nat.le_refl _
  | case7 t prompt default lines next yes t' hcall ih =>
      exact Nat.le_trans ih (Nat.le_of_lt (Terminal.unread_confirm_lt hcall))
  | case8 t prompt default lines next i t' hcall =>
      have h := t.unread_confirm_le prompt default
      rw [hcall] at h
      exact h
  | case9 t question lines resume line t' hcall ih =>
      exact Nat.le_trans ih (Nat.le_of_lt (Terminal.unread_readLine_lt hcall))
  | case10 t question lines resume i t' hcall =>
      have h := t.unread_readLine_le question.prompt question.source?
      rw [hcall] at h
      exact h

end Turn

def construct (s : Schema) (aspects : AspectSet) (t : Terminal) : Except Failure Value × Terminal :=
  (constructTurn aspects s).run aspects t

/-! ## Resolving arguments -/

/-- The value that argument text gives on its own, or else what is said about it before the value is
asked for.  Blank text gives no value, and nothing is said. -/
def readArguments (raw : String) (s : Schema) (aspects : AspectSet) : Except (Option String) Value :=
  let text := Text.trim raw
  if text.isEmpty then .error none
  else
    match Value.parse text with
    | .error e => .error (some ("could not parse input: " ++ e.message))
    | .ok value =>
        match validate value s aspects with
        | .ok () => .ok value
        | .error e => .error (some ("invalid " ++ s.name ++ ": " ++ e.message))

/-- The conversation that resolves argument text: nothing is asked when the text gives a valid value. -/
def resolveTurn (raw : String) (s : Schema) (aspects : AspectSet) : Turn :=
  match readArguments raw s aspects with
  | .ok value => .done value
  | .error none => constructTurn aspects s
  | .error (some reason) => .write reason 0 (constructTurn aspects s)

def resolve (raw : String) (s : Schema) (aspects : AspectSet) (t : Terminal) :
    Except Failure Value × Terminal :=
  (resolveTurn raw s aspects).run aspects t

theorem unread_resolve_le (raw : String) (s : Schema) (aspects : AspectSet) (t : Terminal) :
    (resolve raw s aspects t).2.unread.length ≤ t.unread.length :=
  Turn.unread_run_le aspects _ t

end CommandForms.Dialogue
