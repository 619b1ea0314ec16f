import CommandForms.Proofs.Dialogue.Alike
import CommandForms.Proofs.Dialogue.Replies

/-!
# Unread lines

On a working terminal, what a call answers depends on the unread lines alone, and so do the value that a
conversation ends with and the lines that it leaves.  A conversation that is reached by answered calls is
reached from every terminal on which the lines that were read come next.
-/

namespace CommandForms.Dialogue

open CommandForms.Json (Value)

/-- A terminal has these lines unread, cancels at the line `cancel`, and never fails. -/
structure Holds (cancel : Option String) (lines : List String) (t : Terminal) : Prop where
  unread : t.unread = lines
  cancels : t.cancelLine = cancel
  working : t.failAt = none

namespace Holds

variable {cancel : Option String} {lines : List String} {t : Terminal}

/-! ## Calls -/

theorem perform (h : Holds cancel lines t) (call : Call) :
    ∃ t', call.perform t = ((call.reply cancel lines).1, t') ∧
      Holds cancel (call.reply cancel lines).2 t' := by
  have hperform := call.perform_of_works (Terminal.works_of_working h.working 1)
  rw [h.cancels, h.unread] at hperform
  exact ⟨_, hperform, rfl, h.cancels, h.working⟩

theorem writeLine (h : Holds cancel lines t) (text : String) :
    ∃ t', t.writeLine text = (.ok (), t') ∧ Holds cancel lines t' :=
  h.perform (.write text)

theorem eraseLines (h : Holds cancel lines t) (count : Nat) :
    ∃ t', t.eraseLines count = (.ok (), t') ∧ Holds cancel lines t' :=
  h.perform (.erase count)

theorem readLine (h : Holds cancel lines t) (prompt : String) (source : Option CompletionSource) :
    ∃ t', t.readLine prompt source = (firstLine cancel lines, t') ∧ Holds cancel lines.tail t' :=
  h.perform (.read prompt source)

theorem confirm (h : Holds cancel lines t) (prompt : String) (default : Option Bool) :
    ∃ t', t.confirm prompt default = ((firstAnswer cancel default lines).1, t') ∧
      Holds cancel (firstAnswer cancel default lines).2 t' :=
  h.perform (.confirm prompt default)

end Holds

theorem exists_append_of_firstAnswer {cancel : Option String} {default : Option Bool} {yes : Bool}
    {lines rest : List String} (h : firstAnswer cancel default lines = (.ok yes, rest)) :
    ∃ front, lines = front ++ rest ∧
      ∀ rest', firstAnswer cancel default (front ++ rest') = (.ok yes, rest') := by
  obtain ⟨front, hfront, _, hahead⟩ := Call.exists_read_of_firstAnswer cancel "" default lines
  rw [h] at hfront hahead
  refine ⟨front, hfront, fun rest' => (hahead rest' ?_).1⟩
  rintro ⟨i, hi⟩
  cases hi

theorem firstAnswer_of_unclear {cancel : Option String} {default : Option Bool}
    {front : List String} {line : String} {rest : List String}
    (hfront : ∀ unclear ∈ front, cancel ≠ some unclear ∧ yesNo? default unclear = none)
    (hline : cancel ≠ some line ∧ yesNo? default line = none) :
    firstAnswer cancel default (front ++ line :: rest) = firstAnswer cancel default (front ++ rest) := by
  induction front with
  | nil => rw [List.nil_append, firstAnswer, if_neg hline.1, hline.2, List.nil_append]
  | cons unclear front ih =>
      obtain ⟨hhead, htail⟩ := List.forall_mem_cons.mp hfront
      rw [List.cons_append, List.cons_append, firstAnswer, if_neg hhead.1, hhead.2, firstAnswer,
        if_neg hhead.1, hhead.2]
      dsimp only
      exact ih htail

/-! ## Alike conversations end alike -/

section Ending

variable {aspects : AspectSet} {cancel : Option String} {lines : List String} {turn turn' : Turn}
  {t t' : Terminal}

/-- Two runs end with the same value or the same failure, and leave the same lines unread. -/
def EndAlike (outcome outcome' : Except Failure Value × Terminal) : Prop :=
  outcome.1 = outcome'.1 ∧ outcome.2.unread = outcome'.2.unread

/-- Alike conversations end alike on working terminals with the same unread lines. -/
theorem Alike.endAlike (h : Alike turn turn') (ht : Holds cancel lines t)
    (ht' : Holds cancel lines t') : EndAlike (turn.run aspects t) (turn'.run aspects t') := by
  -- A question leaves fewer lines unread but may go on with any conversation; the other calls leave the lines
  -- as they are and go on with a part of the conversation.
  induction hlength : lines.length using Nat.strongRecOn generalizing lines turn turn' t t' with
  | ind n ih =>
      subst hlength
      induction h generalizing t t' with
      | done value =>
          rw [Turn.run_of_ending? rfl, Turn.run_of_ending? rfl]
          exact ⟨rfl, ht.unread.trans ht'.unread.symm⟩
      | abort e =>
          rw [Turn.run_of_ending? rfl, Turn.run_of_ending? rfl]
          exact ⟨rfl, ht.unread.trans ht'.unread.symm⟩
      | @write text _ _ next next' _ ihNext =>
          obtain ⟨u, hcall, hu⟩ := ht.writeLine text
          obtain ⟨u', hcall', hu'⟩ := ht'.writeLine text
          rw [Turn.run_write, Turn.run_write, hcall, hcall']
          exact ihNext hu hu'
      | @erase n mark n' mark' next next' _ ihNext =>
          obtain ⟨u, hcall, hu⟩ := ht.eraseLines (n - mark)
          obtain ⟨u', hcall', hu'⟩ := ht'.eraseLines (n' - mark')
          rw [Turn.run_erase, Turn.run_erase, hcall, hcall']
          exact ihNext hu hu'
      | @confirm prompt default _ _ next next' hnext _ =>
          obtain ⟨u, hcall, hu⟩ := ht.confirm prompt default
          obtain ⟨u', hcall', hu'⟩ := ht'.confirm prompt default
          rw [Turn.run_confirm, Turn.run_confirm, hcall, hcall']
          cases hanswer : (firstAnswer cancel default lines).1 with
          | error i =>
              change EndAlike (.error (.interrupted i), u) (.error (.interrupted i), u')
              exact ⟨rfl, hu.unread.trans hu'.unread.symm⟩
          | ok yes =>
              rw [hanswer] at hcall
              have hlt := Terminal.unread_confirm_lt hcall
              rw [hu.unread, ht.unread] at hlt
              exact ih _ hlt (hnext yes) hu hu' rfl
      | @ask question _ _ resume resume' hresume _ =>
          obtain ⟨u, hcall, hu⟩ := ht.readLine question.prompt question.source?
          obtain ⟨u', hcall', hu'⟩ := ht'.readLine question.prompt question.source?
          rw [Turn.run_ask, Turn.run_ask, hcall, hcall']
          cases hline : firstLine cancel lines with
          | error i =>
              change EndAlike (.error (.interrupted i), u) (.error (.interrupted i), u')
              exact ⟨rfl, hu.unread.trans hu'.unread.symm⟩
          | ok line =>
              rw [hline] at hcall
              have hlt := Terminal.unread_readLine_lt hcall
              rw [hu.unread, ht.unread] at hlt
              change EndAlike (Turn.run aspects (question.respond aspects line _ resume) u)
                (Turn.run aspects (question.respond aspects line _ resume') u')
              exact ih _ hlt (Alike.respond hresume) hu hu' rfl

/-! ## Reached conversations -/

/-- What answered calls leave of a conversation is alike itself when the conversation is. -/
theorem Alike.call (h : Alike turn turn) (hcall : turn.call? aspects t = some (.ok turn', t')) :
    Alike turn' turn' := by
  cases h with
  | done | abort => cases hcall
  | write hnext =>
      obtain ⟨_, _, rfl⟩ := Turn.goOn_eq_ok.mp (Option.some.inj hcall)
      exact hnext
  | erase hnext =>
      obtain ⟨_, _, rfl⟩ := Turn.goOn_eq_ok.mp (Option.some.inj hcall)
      exact hnext
  | confirm hnext =>
      obtain ⟨yes, _, rfl⟩ := Turn.goOn_eq_ok.mp (Option.some.inj hcall)
      exact hnext yes
  | ask hresume =>
      obtain ⟨line, _, rfl⟩ := Turn.goOn_eq_ok.mp (Option.some.inj hcall)
      exact Alike.respond hresume

/-- The lines that an answered call reads: on every terminal on which they come next, the call is answered
the same. -/
theorem exists_lines_of_call (ht : Holds cancel lines t)
    (hcall : turn.call? aspects t = some (.ok turn', t')) :
    ∃ front rest, lines = front ++ rest ∧ Holds cancel rest t' ∧
      ∀ rest' u, Holds cancel (front ++ rest') u →
        ∃ u', turn.call? aspects u = some (.ok turn', u') ∧ Holds cancel rest' u' := by
  cases turn with
  | done | abort => cases hcall
  | write text n next =>
      obtain ⟨_, hwrite, rfl⟩ := Turn.goOn_eq_ok.mp (Option.some.inj hcall)
      obtain ⟨_, hwrite', hholds⟩ := ht.writeLine text
      cases hwrite.symm.trans hwrite'
      refine ⟨[], lines, rfl, hholds, fun rest' u hu => ?_⟩
      obtain ⟨u', hwrite, hu'⟩ := hu.writeLine text
      refine ⟨u', ?_, hu'⟩
      rw [Turn.call?, hwrite]
      rfl
  | erase n mark next =>
      obtain ⟨_, herase, rfl⟩ := Turn.goOn_eq_ok.mp (Option.some.inj hcall)
      obtain ⟨_, herase', hholds⟩ := ht.eraseLines (n - mark)
      cases herase.symm.trans herase'
      refine ⟨[], lines, rfl, hholds, fun rest' u hu => ?_⟩
      obtain ⟨u', herase, hu'⟩ := hu.eraseLines (n - mark)
      refine ⟨u', ?_, hu'⟩
      rw [Turn.call?, herase]
      rfl
  | confirm prompt default n next =>
      obtain ⟨yes, hconfirm, rfl⟩ := Turn.goOn_eq_ok.mp (Option.some.inj hcall)
      obtain ⟨_, hconfirm', hholds⟩ := ht.confirm prompt default
      obtain ⟨hanswer, rfl⟩ := Prod.mk.inj (hconfirm.symm.trans hconfirm')
      -- The answers up to the clear one are read, and no line behind them makes a difference.
      obtain ⟨front, hlines, hfront⟩ := exists_append_of_firstAnswer (Prod.ext hanswer.symm rfl)
      refine ⟨front, _, hlines, hholds, fun rest' u hu => ?_⟩
      obtain ⟨u', hconfirm, hu'⟩ := hu.confirm prompt default
      rw [hfront rest'] at hconfirm hu'
      refine ⟨u', ?_, hu'⟩
      rw [Turn.call?, hconfirm]
      rfl
  | ask question n resume =>
      obtain ⟨line, hread, rfl⟩ := Turn.goOn_eq_ok.mp (Option.some.inj hcall)
      obtain ⟨_, hread', hholds⟩ := ht.readLine question.prompt question.source?
      obtain ⟨hline, rfl⟩ := Prod.mk.inj (hread.symm.trans hread')
      cases lines with
      | nil => cases hline
      | cons first rest =>
          refine ⟨[first], rest, rfl, hholds, fun rest' u hu => ?_⟩
          obtain ⟨u', hread, hu'⟩ := hu.readLine question.prompt question.source?
          have hfirst : firstLine cancel ([first] ++ rest') = .ok line := hline.symm
          rw [hfirst] at hread
          refine ⟨u', ?_, hu'⟩
          rw [Turn.call?, hread]
          rfl

/-- A conversation that is reached is reached from every terminal on which the lines that were read come
next, whatever follows them. -/
theorem exists_lines_of_reaches {start reached : Turn × Terminal} (ht : Holds cancel lines start.2)
    (hreach : Turn.Reaches aspects start reached) :
    ∃ front rest, lines = front ++ rest ∧ Holds cancel rest reached.2 ∧
      ∀ rest' u, Holds cancel (front ++ rest') u →
        ∃ u', Turn.Reaches aspects (start.1, u) (reached.1, u') ∧ Holds cancel rest' u' := by
  induction hreach with
  | refl => exact ⟨[], lines, rfl, ht, fun rest' u hu => ⟨u, .refl, hu⟩⟩
  | tail _ hcall ih =>
      obtain ⟨front, rest, rfl, hholds, hfront⟩ := ih
      obtain ⟨read, rest, rfl, hholds, hread⟩ := exists_lines_of_call hholds hcall
      refine ⟨front ++ read, rest, (List.append_assoc _ _ _).symm, hholds, fun rest' u hu => ?_⟩
      rw [List.append_assoc] at hu
      obtain ⟨u₁, hreach, hu₁⟩ := hfront _ u hu
      obtain ⟨u₂, hcall, hu₂⟩ := hread _ u₁ hu₁
      exact ⟨u₂, hreach.tail hcall, hu₂⟩

end Ending

end CommandForms.Dialogue
