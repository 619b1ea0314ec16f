import CommandForms.Dialogue.Run
import Mathlib.Logic.Relation

/-!
# Calls of a conversation

A run of a conversation taken apart into the calls that it makes on the terminal: what one call leaves of
the conversation, which conversations are reached by answered calls, and what each call does to the
screen.
-/

namespace CommandForms.Dialogue

open CommandForms.Json (Value)

namespace Terminal

variable {t t' : Terminal} {i : Interruption}

/-! ## Calls and the screen -/

@[simp]
theorem screen_note (event : Event) : (t.note event).screen = showEvent t.screen event := rfl

theorem screen_begin {r : Except Interruption Unit} (h : t.begin = (r, t')) :
    t'.screen = t.screen := by
  unfold begin at h
  dsimp only at h
  split at h <;> cases h <;> rfl

theorem screen_takeLine {r : Except Interruption String} (h : t.takeLine = (r, t')) :
    t'.screen = t.screen := by
  unfold takeLine at h
  split at h
  · cases h
    rfl
  · dsimp only at h
    split at h <;> cases h <;> rfl

theorem screen_writeLine {text : String} (h : t.writeLine text = (.ok (), t')) :
    t'.screen = t.screen ++ [text] := by
  unfold writeLine at h
  split at h
  · rename_i hbegin
    cases h
    simp [screen_begin hbegin, showEvent]
  · rename_i hfail
    exact absurd h (hfail t')

theorem screen_writeLine_error {text : String} (h : t.writeLine text = (.error i, t')) :
    t'.screen = t.screen := by
  unfold writeLine at h
  split at h
  · cases h
  · exact screen_begin h

theorem screen_eraseLines {count : Nat} (h : t.eraseLines count = (.ok (), t')) :
    t'.screen = t.screen.take (t.screen.length - count) := by
  unfold eraseLines at h
  split at h
  · rename_i hbegin
    cases h
    simp [screen_begin hbegin, showEvent]
  · rename_i hfail
    exact absurd h (hfail t')

theorem screen_eraseLines_error {count : Nat} (h : t.eraseLines count = (.error i, t')) :
    t'.screen = t.screen := by
  unfold eraseLines at h
  split at h
  · cases h
  · exact screen_begin h

theorem screen_readLine {prompt line : String} {source : Option CompletionSource}
    (h : t.readLine prompt source = (.ok line, t')) : t'.screen = t.screen ++ [prompt ++ line] := by
  unfold readLine at h
  split at h
  · cases h
  · rename_i hbegin
    split at h
    · rename_i htake
      cases h
      simp [screen_takeLine htake, screen_begin hbegin, showEvent]
    · rename_i hfail
      exact absurd h (hfail line t')

theorem screen_readLine_error {prompt : String} {source : Option CompletionSource}
    (h : t.readLine prompt source = (.error i, t')) : t'.screen = t.screen := by
  unfold readLine at h
  split at h
  · rename_i hbegin
    cases h
    exact screen_begin hbegin
  · rename_i hbegin
    split at h
    · cases h
    · have hscreen := screen_takeLine h
      simpa [screen_begin hbegin, showEvent] using hscreen

theorem screen_takeAnswer {prompt : String} {default : Option Bool} {yes : Bool}
    (h : t.takeAnswer prompt default = (.ok yes, t')) :
    ∃ answer, yesNo? default answer = some yes ∧
      t'.screen = t.screen ++ [answerText prompt default answer] := by
  fun_induction takeAnswer prompt default t with
  | case1 => cases h
  | case2 t line t₁ htake _ hyes =>
      cases h
      exact ⟨line, hyes, by simp [screen_takeLine htake, showEvent]⟩
  | case3 t line t₁ htake _ ih =>
      obtain ⟨answer, hyes, hscreen⟩ := ih h
      refine ⟨answer, hyes, hscreen.trans ?_⟩
      simp [screen_takeLine htake, showEvent]

theorem screen_takeAnswer_error {prompt : String} {default : Option Bool}
    (h : t.takeAnswer prompt default = (.error i, t')) : t'.screen = t.screen := by
  fun_induction takeAnswer prompt default t with
  | case1 t e t₁ htake =>
      cases h
      exact screen_takeLine htake
  | case2 => cases h
  | case3 t line t₁ htake _ ih =>
      refine (ih h).trans ?_
      simp [screen_takeLine htake, showEvent]

theorem screen_confirm {prompt : String} {default : Option Bool} {yes : Bool}
    (h : t.confirm prompt default = (.ok yes, t')) :
    ∃ answer, yesNo? default answer = some yes ∧
      t'.screen = t.screen ++ [answerText prompt default answer] := by
  unfold confirm at h
  split at h
  · cases h
  · rename_i hbegin
    obtain ⟨answer, hyes, hscreen⟩ := screen_takeAnswer h
    refine ⟨answer, hyes, hscreen.trans ?_⟩
    simp [screen_begin hbegin, showEvent]

theorem screen_confirm_error {prompt : String} {default : Option Bool}
    (h : t.confirm prompt default = (.error i, t')) : t'.screen = t.screen := by
  unfold confirm at h
  split at h
  · rename_i hbegin
    cases h
    exact screen_begin hbegin
  · rename_i hbegin
    refine (screen_takeAnswer_error h).trans ?_
    simp [screen_begin hbegin, showEvent]

/-! ## Calls and the lines that they read -/

theorem unread_of_takeLine {line : String} (h : t.takeLine = (.ok line, t')) :
    t.unread = line :: t'.unread := by
  unfold takeLine at h
  split at h
  · cases h
  · rename_i hunread
    dsimp only at h
    split at h
    · cases h
    · cases h
      exact hunread

theorem unread_of_readLine {prompt line : String} {source : Option CompletionSource}
    (h : t.readLine prompt source = (.ok line, t')) : t.unread = line :: t'.unread := by
  unfold readLine at h
  split at h
  · cases h
  · rename_i hbegin
    split at h
    · rename_i htake
      cases h
      have hunread := unread_of_takeLine htake
      rwa [unread_note, unread_begin_of_eq hbegin] at hunread
    · rename_i hfail
      exact absurd h (hfail line t')

theorem unread_of_takeAnswer {prompt : String} {default : Option Bool} {yes : Bool}
    (h : t.takeAnswer prompt default = (.ok yes, t')) :
    ∃ unclear answer, t.unread = unclear ++ answer :: t'.unread ∧
      (∀ other ∈ unclear, yesNo? default other = none) ∧ yesNo? default answer = some yes := by
  fun_induction takeAnswer prompt default t with
  | case1 => cases h
  | case2 t line t₁ htake _ hyes =>
      cases h
      exact ⟨[], line, by rw [unread_note, unread_of_takeLine htake]; rfl, List.forall_mem_nil _, hyes⟩
  | case3 t line t₁ htake hunclear ih =>
      obtain ⟨unclear, answer, hunread, hothers, hyes⟩ := ih h
      refine ⟨line :: unclear, answer, ?_, List.forall_mem_cons.mpr ⟨hunclear, hothers⟩, hyes⟩
      rw [unread_of_takeLine htake, List.cons_append, ← hunread, unread_note]

theorem unread_of_confirm {prompt : String} {default : Option Bool} {yes : Bool}
    (h : t.confirm prompt default = (.ok yes, t')) :
    ∃ unclear answer, t.unread = unclear ++ answer :: t'.unread ∧
      (∀ other ∈ unclear, yesNo? default other = none) ∧ yesNo? default answer = some yes := by
  unfold confirm at h
  split at h
  · cases h
  · rename_i hbegin
    have hanswer := unread_of_takeAnswer h
    rwa [unread_note, unread_begin_of_eq hbegin] at hanswer

end Terminal

namespace Turn

/-! ## One call at a time -/

/-- The outcome of a call that goes on with a conversation when it is answered. -/
def goOn {α : Type} (next : α → Turn) : Terminal.Outcome α → Terminal.Outcome Turn
  | (.ok answer, t) => (.ok (next answer), t)
  | (.error i, t) => (.error i, t)

theorem goOn_eq_ok {α : Type} {next : α → Turn} {outcome : Terminal.Outcome α} {turn' : Turn}
    {t' : Terminal} :
    goOn next outcome = (.ok turn', t') ↔ ∃ answer, outcome = (.ok answer, t') ∧ next answer = turn' := by
  obtain ⟨r, t₁⟩ := outcome
  cases r with
  | error i =>
      constructor
      · intro h
        cases h
      · rintro ⟨answer, h, _⟩
        cases h
  | ok answer =>
      constructor
      · intro h
        cases h
        exact ⟨answer, rfl, rfl⟩
      · rintro ⟨answer', h, rfl⟩
        cases h
        rfl

theorem goOn_eq_error {α : Type} {next : α → Turn} {outcome : Terminal.Outcome α} {i : Interruption}
    {t' : Terminal} : goOn next outcome = (.error i, t') ↔ outcome = (.error i, t') := by
  obtain ⟨r, t₁⟩ := outcome
  cases r <;> simp [goOn]

/-- Makes the call at the front of a conversation; a conversation that has ended makes none. -/
def call? (aspects : AspectSet) (turn : Turn) (t : Terminal) : Option (Terminal.Outcome Turn) :=
  match turn with
  | .done _ | .abort _ => none
  | .write text _ next => some (goOn (fun _ => next) (t.writeLine text))
  | .erase lines mark next => some (goOn (fun _ => next) (t.eraseLines (lines - mark)))
  | .confirm prompt default _ next => some (goOn next (t.confirm prompt default))
  | .ask question lines resume =>
      some (goOn (fun line => question.respond aspects line (lines + 1) resume)
        (t.readLine question.prompt question.source?))

def ending? : Turn → Option (Except Failure Value)
  | .done value => some (.ok value)
  | .abort e => some (.error (.badDelimiter e))
  | .write .. | .erase .. | .confirm .. | .ask .. => none

variable {aspects : AspectSet} {turn turn' : Turn} {t t' : Terminal} {i : Interruption}

/-- What a run comes to behind a call: it goes on when the call is answered, and ends otherwise. -/
def runAfter (aspects : AspectSet) : Terminal.Outcome Turn → Except Failure Value × Terminal
  | (.ok turn, t) => turn.run aspects t
  | (.error i, t) => (.error (.interrupted i), t)

theorem run_of_call? {outcome : Terminal.Outcome Turn}
    (h : turn.call? aspects t = some outcome) : turn.run aspects t = runAfter aspects outcome := by
  cases turn with
  | done | abort => cases h
  | write text lines next =>
      rw [run]
      cases hcall : t.writeLine text with
      | mk r t₁ => cases r <;> simp only [call?, hcall, goOn] at h <;> cases h <;> rfl
  | erase lines mark next =>
      rw [run]
      cases hcall : t.eraseLines (lines - mark) with
      | mk r t₁ => cases r <;> simp only [call?, hcall, goOn] at h <;> cases h <;> rfl
  | confirm prompt default lines next =>
      rw [run]
      cases hcall : t.confirm prompt default with
      | mk r t₁ => cases r <;> simp only [call?, hcall, goOn] at h <;> cases h <;> rfl
  | ask question lines resume =>
      rw [run]
      cases hcall : t.readLine question.prompt question.source? with
      | mk r t₁ => cases r <;> simp only [call?, hcall, goOn] at h <;> cases h <;> rfl

theorem run_write {text : String} {lines : Nat} {next : Turn} :
    (Turn.write text lines next).run aspects t =
      runAfter aspects (goOn (fun _ => next) (t.writeLine text)) :=
  run_of_call? rfl

theorem run_erase {lines mark : Nat} {next : Turn} :
    (Turn.erase lines mark next).run aspects t =
      runAfter aspects (goOn (fun _ => next) (t.eraseLines (lines - mark))) :=
  run_of_call? rfl

theorem run_confirm {prompt : String} {default : Option Bool} {lines : Nat} {next : Bool → Turn} :
    (Turn.confirm prompt default lines next).run aspects t =
      runAfter aspects (goOn next (t.confirm prompt default)) :=
  run_of_call? rfl

theorem run_ask {question : Question} {lines : Nat} {resume : Value → Nat → Turn} :
    (Turn.ask question lines resume).run aspects t =
      runAfter aspects (goOn (fun line => question.respond aspects line (lines + 1) resume)
        (t.readLine question.prompt question.source?)) :=
  run_of_call? rfl

theorem run_of_ending? {ending : Except Failure Value} (h : turn.ending? = some ending) :
    turn.run aspects t = (ending, t) := by
  cases turn with
  | done | abort =>
      cases h
      rw [run]
  | _ => cases h

/-- A run that ends with a value goes on behind a line that it writes, with the same lines unread. -/
theorem exists_run_of_write {text : String} {lines : Nat} {next : Turn} {value : Value}
    (h : (Turn.write text lines next).run aspects t = (.ok value, t')) :
    ∃ t₁, t₁.unread = t.unread ∧ next.run aspects t₁ = (.ok value, t') := by
  rw [run_write] at h
  have hunread := t.unread_writeLine text
  cases hcall : t.writeLine text with
  | mk r t₁ =>
      rw [hcall] at h hunread
      cases r with
      | error i => cases h
      | ok answer => exact ⟨t₁, hunread, h⟩

theorem exists_run_of_erase {lines mark : Nat} {next : Turn} {value : Value}
    (h : (Turn.erase lines mark next).run aspects t = (.ok value, t')) :
    ∃ t₁, t₁.unread = t.unread ∧ next.run aspects t₁ = (.ok value, t') := by
  rw [run_erase] at h
  have hunread := t.unread_eraseLines (lines - mark)
  cases hcall : t.eraseLines (lines - mark) with
  | mk r t₁ =>
      rw [hcall] at h hunread
      cases r with
      | error i => cases h
      | ok answer => exact ⟨t₁, hunread, h⟩

/-- Answered calls lead from one conversation and terminal to another one. -/
def Reaches (aspects : AspectSet) : Turn × Terminal → Turn × Terminal → Prop :=
  Relation.ReflTransGen fun before after =>
    before.1.call? aspects before.2 = some (.ok after.1, after.2)

theorem Reaches.run_eq {before after : Turn × Terminal} (h : Reaches aspects before after) :
    before.1.run aspects before.2 = after.1.run aspects after.2 := by
  induction h with
  | refl => rfl
  | tail _ hcall ih => exact ih.trans (run_of_call? hcall)

theorem reaches_of_run {value : Value} (h : turn.run aspects t = (.ok value, t')) :
    Reaches aspects (turn, t) (.done value, t') := by
  fun_induction run aspects turn t with
  | case1 =>
      cases h
      exact .refl
  | case2 => cases h
  | case3 t text lines next t₁ hcall ih =>
      exact .head (by rw [call?, hcall]; rfl) (ih h)
  | case4 => cases h
  | case5 t lines mark next t₁ hcall ih =>
      exact .head (by rw [call?, hcall]; rfl) (ih h)
  | case6 => cases h
  | case7 t prompt default lines next yes t₁ hcall ih =>
      exact .head (by rw [call?, hcall]; rfl) (ih h)
  | case8 => cases h
  | case9 t question lines resume line t₁ hcall ih =>
      exact .head (by rw [call?, hcall]; rfl) (ih h)
  | case10 => cases h

/-- The first call of a run that gets anywhere leads to all that the run reaches. -/
theorem Reaches.of_call? {before after : Turn × Terminal} (h : Reaches aspects before after)
    (hcall : before.1.call? aspects before.2 = some (.ok turn', t')) :
    after = before ∨ Reaches aspects (turn', t') after := by
  rcases Relation.ReflTransGen.cases_head h with rfl | ⟨middle, hstep, hrest⟩
  · exact .inl rfl
  · rw [hcall] at hstep
    cases hstep
    exact .inr hrest

/-- Nothing is reached from a conversation whose call is not answered, or that has ended. -/
theorem Reaches.eq_of_stuck {before after : Turn × Terminal} (h : Reaches aspects before after)
    (hstuck : ∀ turn' t', before.1.call? aspects before.2 ≠ some (.ok turn', t')) :
    after = before := by
  rcases Relation.ReflTransGen.cases_head h with rfl | ⟨middle, hstep, _⟩
  · rfl
  · exact absurd hstep (hstuck _ _)

/-- Makes up to `n` calls, as long as they are answered. -/
def makeCalls (aspects : AspectSet) : (n : Nat) → Turn → Terminal → Turn × Terminal
  | 0, turn, t => (turn, t)
  | n + 1, turn, t =>
      match turn.call? aspects t with
      | some (.ok turn', t') => makeCalls aspects n turn' t'
      | _ => (turn, t)

theorem reaches_makeCalls (aspects : AspectSet) (n : Nat) (turn : Turn) (t : Terminal) :
    Reaches aspects (turn, t) (makeCalls aspects n turn t) := by
  induction n generalizing turn t with
  | zero => exact .refl
  | succ n ih =>
      unfold makeCalls
      split
      · rename_i turn' t' hcall
        have hstep : Reaches aspects (turn, t) (turn', t') := .single hcall
        exact hstep.trans (ih turn' t')
      · exact .refl

theorem run_eq_of_makeCalls (n : Nat) {ending : Except Failure Value}
    (h : (makeCalls aspects n turn t).1.ending? = some ending) :
    turn.run aspects t = (ending, (makeCalls aspects n turn t).2) :=
  (reaches_makeCalls aspects n turn t).run_eq.trans (run_of_ending? h)

theorem run_eq_of_interrupted (n : Nat)
    (h : (makeCalls aspects n turn t).1.call? aspects (makeCalls aspects n turn t).2 =
      some (.error i, t')) : turn.run aspects t = (.error (.interrupted i), t') :=
  (reaches_makeCalls aspects n turn t).run_eq.trans (run_of_call? h)

end Turn

end CommandForms.Dialogue
