import CommandForms.Proofs.Dialogue.Calls
import CommandForms.Proofs.Dialogue.Invariant

/-!
# Orderly conversations

A conversation is orderly on a terminal when, before each of its calls, the screen holds what it held at
the start and then exactly the lines that the conversation counts.  The conversation for a schema is
orderly on every terminal, and it ends with a value that the schema can be built to, shown on one line, or
with an interruption that leaves the earlier screen as it was.
-/

namespace CommandForms.Dialogue

open CommandForms.Json (Value)

/-- How many lines a conversation counts on the screen before its next call. -/
def Turn.lines? : Turn → Option Nat
  | .write _ lines _ | .erase lines _ _ | .confirm _ _ lines _ | .ask _ lines _ => some lines
  | .done _ | .abort _ => none

/-- Before a call, the screen holds the base and then exactly the lines that are counted.  Erasing goes
back to a count that is not greater, so that it asks for counted lines only. -/
structure Counted (base : List String) (turn : Turn) (t : Terminal) : Prop where
  screen : ∀ lines ∈ turn.lines?, ∃ shown, shown.length = lines ∧ t.screen = base ++ shown
  erase : ∀ lines mark next, turn = .erase lines mark next →
    mark ≤ lines ∧ base.length + (lines - mark) ≤ t.screen.length

/-- Every call of a conversation finds the lines that are counted, its value and the last screen satisfy
`Q`, and an interruption leaves the base. -/
structure Orderly (aspects : AspectSet) (base : List String) (Q : Value → List String → Prop)
    (turn : Turn) (t : Terminal) : Prop where
  calls : ∀ turn' t', Turn.Reaches aspects (turn, t) (turn', t') → Counted base turn' t'
  finished : ∀ value t', turn.run aspects t = (.ok value, t') → Q value t'.screen
  interrupted : ∀ e t', turn.run aspects t = (.error e, t') →
    (∃ i, e = .interrupted i) ∧ base <+: t'.screen

variable {aspects : AspectSet} {base shown : List String} {Q : Value → List String → Prop}
  {turn : Turn} {t : Terminal} {outcome : Terminal.Outcome Turn}

theorem Counted.of_shown (hscreen : t.screen = base ++ shown)
    (hlines : ∀ lines ∈ turn.lines?, lines = shown.length)
    (hmark : ∀ lines mark next, turn = .erase lines mark next → mark ≤ lines) :
    Counted base turn t := by
  refine ⟨fun lines hmem => ⟨shown, (hlines lines hmem).symm, hscreen⟩, ?_⟩
  rintro lines mark next rfl
  have hle := hmark lines mark next rfl
  have hlen := hlines lines rfl
  refine ⟨hle, ?_⟩
  rw [hscreen, List.length_append]
  omega

namespace Orderly

/-- A conversation at a call is orderly when the call finds the counted lines and what it leaves is
orderly. -/
theorem of_call? (hcall : turn.call? aspects t = some outcome) (hcounted : Counted base turn t)
    (hanswered : ∀ turn' t', outcome = (.ok turn', t') → Orderly aspects base Q turn' t')
    (hbroken : ∀ i t', outcome = (.error i, t') → base <+: t'.screen) :
    Orderly aspects base Q turn t := by
  obtain ⟨r, t₁⟩ := outcome
  cases r with
  | ok turn₁ =>
      have hnext := hanswered turn₁ t₁ rfl
      have hrun := Turn.run_of_call? hcall
      refine ⟨fun turn' t' hreach => ?_, fun value t' h => ?_, fun e t' h => ?_⟩
      · rcases hreach.of_call? hcall with heq | hreach
        · cases heq
          exact hcounted
        · exact hnext.calls turn' t' hreach
      · exact hnext.finished value t' (hrun.symm.trans h)
      · exact hnext.interrupted e t' (hrun.symm.trans h)
  | error i =>
      have hrun := Turn.run_of_call? hcall
      rw [Turn.runAfter] at hrun
      refine ⟨fun turn' t' hreach => ?_, fun value t' h => ?_, fun e t' h => ?_⟩
      · have hstuck : ∀ turn' t', turn.call? aspects t ≠ some (.ok turn', t') := by
          intro turn' t' h
          rw [hcall] at h
          cases h
        cases hreach.eq_of_stuck hstuck
        exact hcounted
      · rw [hrun] at h
        cases h
      · rw [hrun] at h
        cases h
        exact ⟨⟨i, rfl⟩, hbroken i t₁ rfl⟩

theorem of_done {value : Value} (hvalue : Q value t.screen) :
    Orderly aspects base Q (.done value) t := by
  have hrun : (Turn.done value).run aspects t = (.ok value, t) := Turn.run_of_ending? rfl
  refine ⟨fun turn' t' hreach => ?_, fun value' t' h => ?_, fun e t' h => ?_⟩
  · cases hreach.eq_of_stuck nofun
    exact ⟨nofun, nofun⟩
  · rw [hrun] at h
    cases h
    exact hvalue
  · rw [hrun] at h
    cases h

end Orderly

/-- Orderly on every terminal with at most `fuel` unread lines and with `shown` behind the base. -/
def OrderlyFrom (aspects : AspectSet) (base : List String) (Q : Value → List String → Prop)
    (fuel : Nat) (shown : List String) (turn : Turn) : Prop :=
  ∀ t : Terminal, t.unread.length ≤ fuel → t.screen = base ++ shown → Orderly aspects base Q turn t

theorem callInvariant_orderlyFrom (aspects : AspectSet) (base : List String)
    (Q : Value → List String → Prop) : CallInvariant aspects (OrderlyFrom aspects base Q) where
  write {fuel shown text next} hnext := by
    intro t hfuel hscreen
    refine .of_call? rfl (.of_shown hscreen (by simp [Turn.lines?]) nofun) ?_ ?_
    · intro turn' t' h
      obtain ⟨_, hcall, rfl⟩ := Turn.goOn_eq_ok.mp h
      have hunread := t.unread_writeLine text
      rw [hcall] at hunread
      exact hnext t' (hunread ▸ hfuel) (by simp [Terminal.screen_writeLine hcall, hscreen])
    · intro i t' h
      simp [Terminal.screen_writeLine_error (Turn.goOn_eq_error.mp h), hscreen]
  erase {fuel before shown next} hbefore hnext := by
    intro t hfuel hscreen
    have hle := hbefore.length_le
    refine .of_call? rfl (.of_shown hscreen (by simp [Turn.lines?]) ?_) ?_ ?_
    · rintro lines mark next ⟨⟩
      exact hle
    · intro turn' t' h
      obtain ⟨_, hcall, rfl⟩ := Turn.goOn_eq_ok.mp h
      have hunread := t.unread_eraseLines (shown.length - before.length)
      rw [hcall] at hunread
      refine hnext t' (hunread ▸ hfuel) ?_
      -- Only lines behind `before` are erased, and `before` is the front of what is shown.
      rw [Terminal.screen_eraseLines hcall, hscreen, List.length_append,
        show base.length + shown.length - (shown.length - before.length) =
          base.length + before.length by omega,
        List.take_length_add_append, ← List.prefix_iff_eq_take.mp hbefore]
    · intro i t' h
      simp [Terminal.screen_eraseLines_error (Turn.goOn_eq_error.mp h), hscreen]
  confirm {fuel shown prompt default next} hnext := by
    intro t hfuel hscreen
    refine .of_call? rfl (.of_shown hscreen (by simp [Turn.lines?]) nofun) ?_ ?_
    · intro turn' t' h
      obtain ⟨yes, hcall, rfl⟩ := Turn.goOn_eq_ok.mp h
      obtain ⟨answer, hyes, hshown⟩ := Terminal.screen_confirm hcall
      have hlt := Nat.lt_of_lt_of_le (Terminal.unread_confirm_lt hcall) hfuel
      exact hnext _ hlt answer yes hyes t' (Nat.le_refl _) (by simp [hshown, hscreen])
    · intro i t' h
      simp [Terminal.screen_confirm_error (Turn.goOn_eq_error.mp h), hscreen]
  ask {fuel shown question resume} hnext := by
    intro t hfuel hscreen
    refine .of_call? rfl (.of_shown hscreen (by simp [Turn.lines?]) nofun) ?_ ?_
    · intro turn' t' h
      obtain ⟨line, hcall, rfl⟩ := Turn.goOn_eq_ok.mp h
      have hlt := Nat.lt_of_lt_of_le (Terminal.unread_readLine_lt hcall) hfuel
      exact hnext _ hlt line t' (Nat.le_refl _) (by simp [Terminal.screen_readLine hcall, hscreen])
    · intro i t' h
      simp [Terminal.screen_readLine_error (Turn.goOn_eq_error.mp h), hscreen]

theorem orderly_constructTurn {s : Schema} (hs : s.checkDelimiters = .ok ()) (aspects : AspectSet)
    (t : Terminal) :
    Orderly aspects t.screen
      (fun value screen => Buildable aspects s value ∧ screen = t.screen ++ [valueLine s.name value])
      (constructTurn aspects s) t := by
  have hinvariant := callInvariant_orderlyFrom aspects t.screen fun value screen =>
    Buildable aspects s value ∧ screen = t.screen ++ [valueLine s.name value]
  refine hinvariant.constructField hs t.unread.length [] 0 _ rfl ?_ t (Nat.le_refl _) (by simp)
  intro fuel' _ value hvalue t' _ hscreen
  exact .of_done ⟨hvalue, hscreen⟩

theorem buildable_of_construct {s : Schema} {value : Value} {t' : Terminal}
    (hs : s.checkDelimiters = .ok ()) (h : construct s aspects t = (.ok value, t')) :
    Buildable aspects s value :=
  ((orderly_constructTurn hs aspects t).finished value t' h).1

end CommandForms.Dialogue
