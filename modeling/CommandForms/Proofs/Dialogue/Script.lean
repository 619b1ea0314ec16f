import CommandForms.Proofs.Dialogue.Calls
import CommandForms.Proofs.Dialogue.Replies
import CommandForms.Dialogue.Construct

/-!
# Scripts

A script is a list of lines that an operator types.  It drives one conversation to another one when every
terminal that has the script before its other lines gets there by answered calls, with the other lines
still unread.  A terminal has to be working, and it may cancel at one line only.
-/

namespace CommandForms.Dialogue

open CommandForms.Json (Value)

/-- The line that cancels, on the terminals where a line cancels. -/
def cancelLine : String := "^C"

/-- A terminal has exactly these lines unread, never fails, and cancels at no other line than the one that
cancels. -/
structure Ready (lines : List String) (t : Terminal) : Prop where
  unread : t.unread = lines
  working : t.failAt = none
  cancels : ∀ line ∈ t.cancelLine, line = cancelLine

namespace Ready

variable {line : String} {rest lines : List String} {t : Terminal}

theorem fresh (lines : List String) : Ready lines { unread := lines } :=
  ⟨rfl, rfl, fun _ hline => (Option.some.inj hline).symm⟩

/-- A call that is answered from the unread lines at every terminal of this kind is answered. -/
theorem perform (call : Call) {answer : call.Answer} (h : Ready lines t)
    (hreply : ∀ cancel : Option String, (∀ line ∈ cancel, line = cancelLine) →
      call.reply cancel lines = (.ok answer, rest)) :
    ∃ t', call.perform t = (.ok answer, t') ∧ Ready rest t' := by
  have hperform := call.perform_of_works (Terminal.works_of_working h.working 1)
  rw [h.unread, hreply t.cancelLine h.cancels] at hperform
  exact ⟨_, hperform, rfl, h.working, h.cancels⟩

theorem writeLine (h : Ready lines t) (text : String) :
    ∃ t', t.writeLine text = (.ok (), t') ∧ Ready lines t' :=
  h.perform (.write text) fun _ _ => rfl

theorem eraseLines (h : Ready lines t) (count : Nat) :
    ∃ t', t.eraseLines count = (.ok (), t') ∧ Ready lines t' :=
  h.perform (.erase count) fun _ _ => rfl

theorem readLine (h : Ready (line :: rest) t) (hline : line ≠ cancelLine) (prompt : String)
    (source : Option CompletionSource) :
    ∃ t', t.readLine prompt source = (.ok line, t') ∧ Ready rest t' := by
  refine h.perform (.read prompt source) fun cancel hcancels => ?_
  have hcancel : cancel ≠ some line := fun heq => hline (hcancels line heq)
  rw [Call.reply, firstLine, if_neg hcancel]
  rfl

theorem confirm {default : Option Bool} {yes : Bool} (h : Ready (line :: rest) t)
    (hline : line ≠ cancelLine) (hyes : yesNo? default line = some yes) (prompt : String) :
    ∃ t', t.confirm prompt default = (.ok yes, t') ∧ Ready rest t' := by
  refine h.perform (.confirm prompt default) fun cancel hcancels => ?_
  have hcancel : cancel ≠ some line := fun heq => hline (hcancels line heq)
  exact (Call.answer_of_clear prompt default hcancel hyes).1

end Ready

/-- A script leads from one conversation to another one, and not beyond its end. -/
def Drives (aspects : AspectSet) (turn : Turn) (script : List String) (turn' : Turn) : Prop :=
  ∀ rest t, Ready (script ++ rest) t →
    ∃ t', Ready rest t' ∧ Turn.Reaches aspects (turn, t) (turn', t')

namespace Drives

variable {aspects : AspectSet} {turn turn₁ turn₂ : Turn} {script script' : List String} {line : String}
  {lines : Nat}

theorem refl (aspects : AspectSet) (turn : Turn) : Drives aspects turn [] turn :=
  fun _ t h => ⟨t, h, .refl⟩

theorem trans (h : Drives aspects turn script turn₁) (h' : Drives aspects turn₁ script' turn₂) :
    Drives aspects turn (script ++ script') turn₂ := by
  intro rest t hready
  rw [List.append_assoc] at hready
  obtain ⟨t₁, hready, hreach⟩ := h _ t hready
  obtain ⟨t₂, hready, hreach'⟩ := h' _ t₁ hready
  exact ⟨t₂, hready, hreach.trans hreach'⟩

theorem of_call
    (h : ∀ rest t, Ready (script ++ rest) t →
      ∃ t', Ready rest t' ∧ turn.call? aspects t = some (.ok turn', t')) :
    Drives aspects turn script turn' := by
  intro rest t hready
  obtain ⟨t', hready, hcall⟩ := h rest t hready
  exact ⟨t', hready, .single hcall⟩

theorem write (text : String) : Drives aspects (.write text lines turn) [] turn := by
  apply of_call
  intro rest t hready
  obtain ⟨t', hcall, hready⟩ := hready.writeLine text
  refine ⟨t', hready, ?_⟩
  rw [Turn.call?, hcall]
  rfl

theorem erase (mark : Nat) : Drives aspects (.erase lines mark turn) [] turn := by
  apply of_call
  intro rest t hready
  obtain ⟨t', hcall, hready⟩ := hready.eraseLines (lines - mark)
  refine ⟨t', hready, ?_⟩
  rw [Turn.call?, hcall]
  rfl

theorem confirm {prompt : String} {default : Option Bool} {yes : Bool} {next : Bool → Turn}
    (hline : line ≠ cancelLine) (hyes : yesNo? default line = some yes) :
    Drives aspects (.confirm prompt default lines next) [line] (next yes) := by
  apply of_call
  intro rest t hready
  obtain ⟨t', hcall, hready⟩ := hready.confirm hline hyes prompt
  refine ⟨t', hready, ?_⟩
  rw [Turn.call?, hcall]
  rfl

theorem ask {question : Question} {resume : Value → Nat → Turn} (hline : line ≠ cancelLine) :
    Drives aspects (.ask question lines resume) [line]
      (question.respond aspects line (lines + 1) resume) := by
  apply of_call
  intro rest t hready
  obtain ⟨t', hcall, hready⟩ := hready.readLine hline question.prompt question.source?
  refine ⟨t', hready, ?_⟩
  rw [Turn.call?, hcall]
  rfl

theorem round {text : String} {question : Question} {resume : Value → Nat → Turn}
    (hline : line ≠ cancelLine) :
    Drives aspects (.write text lines (.ask question (lines + 1) resume)) [line]
      (question.respond aspects line (lines + 2) resume) :=
  (write text).trans (ask hline)

theorem commit (name : String) (mark : Nat) (resume : Value → Nat → Turn) (value : Value) :
    Drives aspects (commit name mark resume value lines) [] (resume value (mark + 1)) :=
  (erase mark).trans (write _)

theorem run_eq {value : Value} (h : Drives aspects turn script (.done value)) {rest : List String}
    {t : Terminal} (hready : Ready (script ++ rest) t) :
    ∃ t', turn.run aspects t = (.ok value, t') ∧ t'.unread = rest := by
  obtain ⟨t', hready, hreach⟩ := h rest t hready
  exact ⟨t', hreach.run_eq.trans (Turn.run_of_ending? rfl), hready.unread⟩

end Drives

end CommandForms.Dialogue
