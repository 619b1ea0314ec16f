import CommandForms.Dialogue.Terminal

/-!
# Replies of a terminal

A call on a terminal that does not fail at it is replied to from the unread lines.  The reply, the events
that are logged and the lines that are left depend on these lines and on the line that cancels alone; neither
the screen nor earlier calls matter.
-/

namespace CommandForms.Dialogue

/-- What the next line answers to a call that reads one. -/
def firstLine (cancel : Option String) : List String → Except Interruption String
  | [] => .error .cancelled
  | line :: _ => if cancel = some line then .error .cancelled else .ok line

/-- What unread lines answer to a yes-or-no question, and the lines behind the answer. -/
def firstAnswer (cancel : Option String) (default : Option Bool) :
    List String → Except Interruption Bool × List String
  | [] => (.error .cancelled, [])
  | line :: lines =>
      if cancel = some line then (.error .cancelled, lines)
      else
        match yesNo? default line with
        | some yes => (.ok yes, lines)
        | none => firstAnswer cancel default lines

/-- A call on a terminal, with its arguments. -/
inductive Call
  | write (text : String)
  | erase (count : Nat)
  | read (prompt : String) (source : Option CompletionSource)
  | confirm (prompt : String) (default : Option Bool)

namespace Call

def Answer : Call → Type
  | .write _ | .erase _ => Unit
  | .read .. => String
  | .confirm .. => Bool

def perform : (call : Call) → Terminal → Terminal.Outcome call.Answer
  | .write text, t => t.writeLine text
  | .erase count, t => t.eraseLines count
  | .read prompt source, t => t.readLine prompt source
  | .confirm prompt default, t => t.confirm prompt default

/-! ## Calls on terminals that do not fail -/

/-- What unread lines reply to a call, and the lines that are left. -/
def reply (cancel : Option String) :
    (call : Call) → List String → Except Interruption call.Answer × List String
  | .write _, lines | .erase _, lines => (.ok (), lines)
  | .read .., lines => (firstLine cancel lines, lines.tail)
  | .confirm _ default, lines => firstAnswer cancel default lines

/-- The events of the lines that are taken for an answer to a yes-or-no question, last one first. -/
def answerEvents (cancel : Option String) (prompt : String) (default : Option Bool) :
    List String → List Event
  | [] => []
  | line :: lines =>
      if cancel = some line then []
      else
        match yesNo? default line with
        | some _ => [.answered prompt default line]
        | none => answerEvents cancel prompt default lines ++ [.unclear prompt default line]

/-- The events of a call, last one first. -/
def events (cancel : Option String) : Call → List String → List Event
  | .write text, _ => [.wrote text]
  | .erase count, _ => [.erased count]
  | .read prompt source, lines =>
      match firstLine cancel lines with
      | .ok line => [.typed prompt line, .asked prompt source]
      | .error _ => [.asked prompt source]
  | .confirm prompt default, lines =>
      answerEvents cancel prompt default lines ++ [.questioned prompt default]

end Call

namespace Terminal

variable {t t₁ t' : Terminal} {n : Nat}

/-- A terminal does not fail at any of its next `n` calls. -/
def Works (n : Nat) (t : Terminal) : Prop :=
  ∀ k ∈ t.failAt, k ≤ t.calls ∨ t.calls + n < k

theorem works_of_working (h : t.failAt = none) (n : Nat) : t.Works n := by
  intro k hk
  rw [h] at hk
  cases hk

/-- The terminal after some calls, which left these lines unread and logged these events. -/
def advance (t : Terminal) (calls : Nat) (unread : List String) (events : List Event) : Terminal :=
  { t with unread := unread, calls := t.calls + calls, log := events ++ t.log }

theorem Works.mono {m : Nat} (h : t.Works n) (hle : m ≤ n) : t.Works m := by
  intro k hk
  rcases h k hk with hbefore | hafter
  · exact .inl hbefore
  · exact .inr (Nat.lt_of_le_of_lt (Nat.add_le_add_left hle t.calls) hafter)

theorem Works.advance {m : Nat} (h : t.Works (m + n)) (unread : List String) (events : List Event) :
    (t.advance m unread events).Works n := by
  intro k hk
  have hcalls : (t.advance m unread events).calls = t.calls + m := rfl
  have := h k hk
  omega

theorem advance_advance (m : Nat) (unread unread' : List String) (events events' : List Event) :
    (t.advance m unread events).advance n unread' events' =
      t.advance (m + n) unread' (events' ++ events) := by
  simp [Terminal.advance, Nat.add_assoc]

theorem transcript_advance (calls : Nat) (unread : List String) (events : List Event) :
    (t.advance calls unread events).transcript =
      t.transcript ++ events.reverse.filterMap transcriptLine? := by
  unfold transcript advance
  rw [List.reverse_append, List.filterMap_append]

theorem begin_of_works (h : t.Works 1) : t.begin = (.ok (), t.advance 1 t.unread []) := by
  have hcall : t.failAt ≠ some (t.calls + 1) := by
    intro hfail
    have := h _ hfail
    omega
  unfold begin
  exact if_neg hcall

theorem takeLine_eq (t : Terminal) :
    t.takeLine = (firstLine t.cancelLine t.unread, { t with unread := t.unread.tail }) := by
  obtain ⟨unread, cancel, failAt, calls, log⟩ := t
  cases unread with
  | nil => rfl
  | cons line unread =>
      unfold takeLine firstLine
      dsimp only
      split <;> rfl

theorem takeAnswer_eq (prompt : String) (default : Option Bool) (t : Terminal) :
    t.takeAnswer prompt default =
      ((firstAnswer t.cancelLine default t.unread).1,
        t.advance 0 (firstAnswer t.cancelLine default t.unread).2
          (Call.answerEvents t.cancelLine prompt default t.unread)) := by
  induction hlines : t.unread generalizing t with
  | nil =>
      rw [takeAnswer, takeLine_eq, hlines]
      simp [firstLine, firstAnswer, Call.answerEvents, advance]
  | cons line lines ih =>
      have htake := takeLine_eq t
      rw [hlines, firstLine] at htake
      unfold firstAnswer Call.answerEvents
      by_cases hcancel : t.cancelLine = some line
      · rw [if_pos hcancel] at htake
        rw [takeAnswer, htake, if_pos hcancel, if_pos hcancel]
        rfl
      · rw [if_neg hcancel] at htake
        rw [takeAnswer, htake, if_neg hcancel, if_neg hcancel]
        dsimp only
        cases yesNo? default line with
        | some yes => rfl
        | none =>
            refine (ih _ rfl).trans ?_
            simp [advance, note]

end Terminal

namespace Call

variable {t : Terminal}

/-- A call at which a terminal does not fail depends on the unread lines and on the cancel line alone. -/
theorem perform_of_works (call : Call) (h : t.Works 1) :
    call.perform t = ((call.reply t.cancelLine t.unread).1,
      t.advance 1 (call.reply t.cancelLine t.unread).2 (call.events t.cancelLine t.unread)) := by
  have hbegin := Terminal.begin_of_works h
  cases call with
  | write text =>
      change t.writeLine text = _
      unfold Terminal.writeLine
      rw [hbegin]
      rfl
  | erase count =>
      change t.eraseLines count = _
      unfold Terminal.eraseLines
      rw [hbegin]
      rfl
  | read prompt source =>
      change t.readLine prompt source = _
      unfold Terminal.readLine
      rw [hbegin]
      dsimp only
      rw [Terminal.takeLine_eq]
      unfold reply events
      dsimp only [Terminal.note, Terminal.advance]
      cases firstLine t.cancelLine t.unread <;> rfl
  | confirm prompt default =>
      change t.confirm prompt default = _
      unfold Terminal.confirm
      rw [hbegin]
      dsimp only
      rw [Terminal.takeAnswer_eq]
      unfold reply events Terminal.note Terminal.advance
      rw [List.append_assoc]
      rfl

theorem perform_of_fails (call : Call) (h : t.failAt = some (t.calls + 1)) :
    call.perform t = (.error (.failed (t.calls + 1)), t.advance 1 t.unread []) := by
  have hbegin : t.begin = (.error (.failed (t.calls + 1)), t.advance 1 t.unread []) := by
    unfold Terminal.begin
    exact if_pos h
  cases call with
  | write text =>
      change t.writeLine text = _
      unfold Terminal.writeLine
      rw [hbegin]
      rfl
  | erase count =>
      change t.eraseLines count = _
      unfold Terminal.eraseLines
      rw [hbegin]
      rfl
  | read prompt source =>
      change t.readLine prompt source = _
      unfold Terminal.readLine
      rw [hbegin]
      rfl
  | confirm prompt default =>
      change t.confirm prompt default = _
      unfold Terminal.confirm
      rw [hbegin]
      rfl

theorem calls_perform (call : Call) (t : Terminal) : (call.perform t).2.calls = t.calls + 1 := by
  by_cases hfails : t.failAt = some (t.calls + 1)
  · rw [call.perform_of_fails hfails]
    rfl
  · have hworks : t.Works 1 := by
      intro k hk
      rcases Nat.lt_trichotomy k (t.calls + 1) with hlt | rfl | hgt
      · exact .inl (Nat.le_of_lt_succ hlt)
      · exact absurd hk hfails
      · exact .inr hgt
    rw [call.perform_of_works hworks]
    rfl

/-! ## The lines that a call reads -/

theorem firstLine_ne_failed (cancel : Option String) (lines : List String) (n : Nat) :
    firstLine cancel lines ≠ .error (.failed n) := by
  intro hfailed
  unfold firstLine at hfailed
  split at hfailed
  · cases hfailed
  · split at hfailed <;> cases hfailed

theorem firstAnswer_ne_failed (cancel : Option String) (default : Option Bool) (lines : List String)
    (n : Nat) : (firstAnswer cancel default lines).1 ≠ .error (.failed n) := by
  induction lines with
  | nil =>
      intro hfailed
      cases hfailed
  | cons line lines ih =>
      intro hfailed
      unfold firstAnswer at hfailed
      split at hfailed
      · cases hfailed
      · split at hfailed
        · cases hfailed
        · exact ih hfailed

theorem reply_ne_failed (call : Call) (cancel : Option String) (lines : List String) (n : Nat) :
    (call.reply cancel lines).1 ≠ .error (.failed n) := by
  cases call with
  | write | erase => exact nofun
  | read => exact firstLine_ne_failed cancel lines n
  | confirm prompt default => exact firstAnswer_ne_failed cancel default lines n

section Answers

variable {cancel : Option String} {line : String} {yes : Bool} {lines : List String} (prompt : String)
  (default : Option Bool)

theorem answer_of_cancel (h : cancel = some line) :
    firstAnswer cancel default (line :: lines) = (.error .cancelled, lines) ∧
      answerEvents cancel prompt default (line :: lines) = [] :=
  ⟨if_pos h, if_pos h⟩

theorem answer_of_clear (hcancel : cancel ≠ some line) (hyes : yesNo? default line = some yes) :
    firstAnswer cancel default (line :: lines) = (.ok yes, lines) ∧
      answerEvents cancel prompt default (line :: lines) = [.answered prompt default line] := by
  rw [firstAnswer, answerEvents, if_neg hcancel, if_neg hcancel, hyes]
  exact ⟨rfl, rfl⟩

theorem answer_of_unclear (hcancel : cancel ≠ some line) (hunclear : yesNo? default line = none) :
    firstAnswer cancel default (line :: lines) = firstAnswer cancel default lines ∧
      answerEvents cancel prompt default (line :: lines) =
        answerEvents cancel prompt default lines ++ [.unclear prompt default line] := by
  rw [firstAnswer, answerEvents, if_neg hcancel, if_neg hcancel, hunclear]
  exact ⟨rfl, rfl⟩

end Answers

/-- The lines that are taken for an answer, with what is said of them in `exists_read`. -/
theorem exists_read_of_firstAnswer (cancel : Option String) (prompt : String) (default : Option Bool)
    (lines : List String) :
    ∃ read, lines = read ++ (firstAnswer cancel default lines).2 ∧
      ((∃ yes, (firstAnswer cancel default lines).1 = .ok yes) → ∀ line ∈ cancel, line ∉ read) ∧
      ∀ ahead, ((∃ i, (firstAnswer cancel default lines).1 = .error i) →
          ahead = (firstAnswer cancel default lines).2 ∨ ∃ line ∈ cancel, line ∈ read) →
        firstAnswer cancel default (read ++ ahead) = ((firstAnswer cancel default lines).1, ahead) ∧
          answerEvents cancel prompt default (read ++ ahead) =
            answerEvents cancel prompt default lines := by
  induction lines with
  | nil =>
      refine ⟨[], rfl, fun _ _ _ => List.not_mem_nil, fun ahead hahead => ?_⟩
      rcases hahead ⟨.cancelled, rfl⟩ with rfl | ⟨line, _, hmem⟩
      · exact ⟨rfl, rfl⟩
      · cases hmem
  | cons line lines ih =>
      by_cases hcancel : cancel = some line
      · obtain ⟨hanswer, hevents⟩ := answer_of_cancel prompt default hcancel
        rw [hanswer, hevents]
        refine ⟨[line], rfl, ?_, fun ahead _ => answer_of_cancel prompt default hcancel⟩
        rintro ⟨yes, hyes⟩
        cases hyes
      · cases hyes : yesNo? default line with
        | some yes =>
            obtain ⟨hanswer, hevents⟩ := answer_of_clear prompt default hcancel hyes
            rw [hanswer, hevents]
            refine ⟨[line], rfl, ?_, fun ahead _ => answer_of_clear prompt default hcancel hyes⟩
            rintro _ other rfl hmem
            exact hcancel (congrArg some (List.mem_singleton.mp hmem))
        | none =>
            obtain ⟨hanswer, hevents⟩ := answer_of_unclear prompt default hcancel hyes
            obtain ⟨read, hread, hclear, hahead⟩ := ih
            -- The unclear line is read as well, in front of those that decide the answer.
            rw [hanswer, hevents]
            refine ⟨line :: read, congrArg (line :: ·) hread, ?_, fun ahead hmore => ?_⟩
            · rintro hok other rfl hmem
              rcases List.mem_cons.mp hmem with rfl | hmem
              · exact hcancel rfl
              · exact hclear hok other rfl hmem
            · obtain ⟨hanswer', hevents'⟩ := hahead ahead fun herror => by
                rcases hmore herror with heq | ⟨other, hother, hmem⟩
                · exact .inl heq
                · rcases List.mem_cons.mp hmem with rfl | hmem
                  · exact absurd hother hcancel
                  · exact .inr ⟨other, hother, hmem⟩
              obtain ⟨hfirst, hlog⟩ := answer_of_unclear prompt default hcancel hyes
              rw [List.cons_append, hfirst, hlog, hanswer', hevents']
              exact ⟨rfl, rfl⟩

/-- The lines that a call reads.  An answer reads no line that cancels.  The reply stays as it is when other
lines follow those that were read, unless the call found no line that it could take. -/
theorem exists_read (call : Call) (cancel : Option String) (lines : List String) :
    ∃ read, lines = read ++ (call.reply cancel lines).2 ∧
      ((∃ answer, (call.reply cancel lines).1 = .ok answer) → ∀ line ∈ cancel, line ∉ read) ∧
      ∀ ahead, ((∃ i, (call.reply cancel lines).1 = .error i) →
          ahead = (call.reply cancel lines).2 ∨ ∃ line ∈ cancel, line ∈ read) →
        call.reply cancel (read ++ ahead) = ((call.reply cancel lines).1, ahead) ∧
          call.events cancel (read ++ ahead) = call.events cancel lines := by
  cases call with
  | write | erase => exact ⟨[], rfl, fun _ _ _ => List.not_mem_nil, fun _ _ => ⟨rfl, rfl⟩⟩
  | read prompt source =>
      cases lines with
      | nil =>
          refine ⟨[], rfl, fun _ _ _ => List.not_mem_nil, fun ahead hahead => ?_⟩
          rcases hahead ⟨.cancelled, rfl⟩ with rfl | ⟨line, _, hmem⟩
          · exact ⟨rfl, rfl⟩
          · cases hmem
      | cons line lines =>
          refine ⟨[line], rfl, ?_, fun ahead _ => ⟨rfl, rfl⟩⟩
          rintro ⟨answer, hanswer⟩ other hother hmem
          obtain rfl := List.mem_singleton.mp hmem
          have hcancelled : firstLine cancel (other :: lines) = .error .cancelled := if_pos hother
          cases hcancelled.symm.trans hanswer
  | confirm prompt default =>
      obtain ⟨read, hread, hclear, hahead⟩ := exists_read_of_firstAnswer cancel prompt default lines
      refine ⟨read, hread, hclear, fun ahead hmore => ?_⟩
      obtain ⟨hreply, hevents⟩ := hahead ahead hmore
      exact ⟨hreply, congrArg (· ++ [Event.questioned prompt default]) hevents⟩

def opening : Call → Event
  | .write text => .wrote text
  | .erase count => .erased count
  | .read prompt source => .asked prompt source
  | .confirm prompt default => .questioned prompt default

theorem opening_injective : Function.Injective opening := by
  intro call call' h
  cases call <;> cases call' <;> cases h <;> rfl

theorem exists_events (call : Call) (cancel : Option String) (lines : List String) :
    ∃ later, call.events cancel lines = later ++ [call.opening] := by
  cases call with
  | write | erase => exact ⟨[], rfl⟩
  | read prompt source =>
      unfold events
      dsimp only
      cases firstLine cancel lines with
      | error i => exact ⟨[], rfl⟩
      | ok line => exact ⟨[.typed prompt line], rfl⟩
  | confirm prompt default => exact ⟨_, rfl⟩

/-- A call on a working terminal logs how it starts first, and the terminal goes on working. -/
theorem exists_log {call : Call} {reply : Except Interruption call.Answer} {t' : Terminal}
    (hcall : call.perform t = (reply, t')) (ht : t.failAt = none) :
    t'.failAt = none ∧ ∃ later, t'.log = later ++ call.opening :: t.log := by
  obtain ⟨_, rfl⟩ := Prod.mk.inj
    (hcall.symm.trans (call.perform_of_works (Terminal.works_of_working ht 1)))
  obtain ⟨later, hlater⟩ := call.exists_events t.cancelLine t.unread
  refine ⟨ht, later, ?_⟩
  rw [Terminal.advance, hlater, List.append_assoc]
  rfl

end Call

end CommandForms.Dialogue
