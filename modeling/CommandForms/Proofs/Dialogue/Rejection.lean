import CommandForms.Proofs.Dialogue.Holds
import CommandForms.Proofs.Dialogue.Screen

/-!
# Rejected lines

A line is rejected when a conversation answers it by asking the same question again, with the same partial
value.  Without the line the conversation ends as it does with it: with the same value or failure, with the
same lines unread, and behind a value with the same screen.
-/

namespace CommandForms.Dialogue

open CommandForms.Json (Value)

/-- A conversation asks a question again, perhaps after some lines, and goes on from it as before. -/
inductive AsksAgain (question : Question) (resume : Value → Nat → Turn) : Turn → Prop
  | ask (lines : Nat) : AsksAgain question resume (.ask question lines resume)
  | write {text : String} {lines : Nat} {next : Turn} (hnext : AsksAgain question resume next) :
      AsksAgain question resume (.write text lines next)

/-- The next call of a conversation reads a line and rejects it.  The lines in front are answers to the
same yes-or-no question that were not clear either. -/
inductive RejectsNext (aspects : AspectSet) :
    Turn → Terminal → List String → String → List String → Prop
  | ask {question : Question} {lines : Nat} {resume : Value → Nat → Turn} {t : Terminal}
      {line : String} {after : List String}
      (hunread : t.unread = line :: after) (hcancel : t.cancelLine ≠ some line)
      (hagain : AsksAgain question resume (question.respond aspects line (lines + 1) resume)) :
      RejectsNext aspects (.ask question lines resume) t [] line after
  | confirm {prompt : String} {default : Option Bool} {lines : Nat} {next : Bool → Turn}
      {t : Terminal} {front : List String} {line : String} {after : List String}
      (hunread : t.unread = front ++ line :: after)
      (hfront : ∀ unclear ∈ front, t.cancelLine ≠ some unclear ∧ yesNo? default unclear = none)
      (hline : t.cancelLine ≠ some line ∧ yesNo? default line = none) :
      RejectsNext aspects (.confirm prompt default lines next) t front line after

/-- A conversation on a terminal reads the lines `before`, and then a line that it rejects. -/
def RejectsLine (aspects : AspectSet) (turn : Turn) (t : Terminal) (before : List String)
    (line : String) (after : List String) : Prop :=
  t.unread = before ++ line :: after ∧
    ∃ turn' t' front, Turn.Reaches aspects (turn, t) (turn', t') ∧
      RejectsNext aspects turn' t' front line after

/-! ## Which lines are rejected -/

/-- A question refuses a line, its blanks dropped: an empty line where nothing can be taken yet, a text that
is no integer within the bounds, a text that means no entry or none for sure, an entry for which there is no
room, and a word for no action that is open. -/
inductive Question.Refuses (aspects : AspectSet) : Question → String → Prop
  | noDefault {name : String} {options : StringOptions} {source : CompletionSource}
      (hdefault : options.default = none) : Refuses aspects (.text name options source) ""
  | unknownText {name line : String} {options : StringOptions} {source : CompletionSource}
      {said : List String} (hline : line ≠ "")
      (hchoice : choose source options.strict line = .refused said) :
      Refuses aspects (.text name options source) line
  | badNumber {name line : String} {options : IntegerOptions}
      (hnumber : readNumber? options line = none) : Refuses aspects (.number name options) line
  | tooFewMembers {name : String} {options : StringSetOptions} {source : CompletionSource}
      {members : List String} (hcount : members.length < options.count.least) :
      Refuses aspects (.member name options source members) ""
  | unknownMember {name line : String} {options : StringSetOptions} {source : CompletionSource}
      {members said : List String} (hline : line ≠ "")
      (hchoice : choose source options.strict line = .refused said) :
      Refuses aspects (.member name options source members) line
  | fullSet {name line entry : String} {options : StringSetOptions} {source : CompletionSource}
      {members : List String} (hline : line ≠ "")
      (hchoice : choose source options.strict line = .taken entry) (hnew : entry ∉ members)
      (hfull : options.count.leavesRoom members.length = false) :
      Refuses aspects (.member name options source members) line
  | tooFewAspects {name : String} {keys : CountBounds} {source : CompletionSource}
      {counts : List (String × Value)} (hcount : counts.length < keys.least) :
      Refuses aspects (.aspect name keys source counts) ""
  | unknownAspect {name line : String} {keys : CountBounds} {source : CompletionSource}
      {counts : List (String × Value)} {said : List String} (hline : line ≠ "")
      (hchoice : chooseAspect source aspects line = .refused said) :
      Refuses aspects (.aspect name keys source counts) line
  | fullMap {name line chosen : String} {keys : CountBounds} {source : CompletionSource}
      {counts : List (String × Value)} (hline : line ≠ "")
      (hchoice : chooseAspect source aspects line = .taken chosen)
      (hnew : Entries.find? chosen counts = none) (hfull : keys.leavesRoom counts.length = false) :
      Refuses aspects (.aspect name keys source counts) line
  | unavailable {name line : String} {element : Schema} {length : CountBounds} {items : List Value}
      (haction : Action.ofLine? (Action.available length items.length) line = none) :
      Refuses aspects (.action name element length items) line

variable {aspects : AspectSet} {question : Question} {resume : Value → Nat → Turn} {lines : Nat}

theorem AsksAgain.writeAll {said : List String} {next : Nat → Turn}
    (hnext : ∀ n, AsksAgain question resume (next n)) :
    AsksAgain question resume (writeAll said lines next) := by
  induction said generalizing lines with
  | nil => exact hnext lines
  | cons text said ih => exact .write ih

theorem isEmpty_of_ne {line : String} (h : line ≠ "") : line.isEmpty = false := by
  simpa using h

theorem asksAgain_of_refuses {typed : String} (h : question.Refuses aspects (Text.trim typed)) :
    AsksAgain question resume (question.respond aspects typed lines resume) := by
  generalize hline : Text.trim typed = line at h
  cases h with
  | noDefault hdefault =>
      simp only [Question.respond, hline, hdefault]
      exact .ask lines
  | unknownText hne hchoice =>
      simp only [Question.respond, hline, isEmpty_of_ne hne, hchoice]
      exact .writeAll .ask
  | badNumber hnumber =>
      simp only [Question.respond, hline, hnumber]
      exact .ask lines
  | tooFewMembers hcount =>
      simp only [Question.respond, hline, if_neg (Nat.not_le.mpr hcount)]
      exact .write (.ask _)
  | unknownMember hne hchoice =>
      simp only [Question.respond, hline, isEmpty_of_ne hne, hchoice]
      exact .writeAll fun _ => .write (.ask _)
  | @fullSet name _ entry options source members hne hchoice hnew hfull =>
      have htoggle : (toggle name options members entry).1 = members := by
        simp [toggle, hnew, hfull]
      simp only [Question.respond, hline, isEmpty_of_ne hne, hchoice, htoggle]
      exact .writeAll fun _ => .write (.ask _)
  | tooFewAspects hcount =>
      simp only [Question.respond, hline, if_neg (Nat.not_le.mpr hcount)]
      exact .write (.ask _)
  | unknownAspect hne hchoice =>
      simp only [Question.respond, hline, isEmpty_of_ne hne, hchoice]
      exact .writeAll fun _ => .write (.ask _)
  | fullMap hne hchoice hnew hfull =>
      simp only [Question.respond, hline, isEmpty_of_ne hne, hchoice, hnew, hfull]
      exact .writeAll fun _ => .write (.ask _)
  | unavailable haction =>
      simp only [Question.respond, hline, haction]
      exact .write (.ask _)

/-! ## Runs without a rejected line -/

variable {cancel : Option String} {turn : Turn} {t u : Terminal} {unread front after : List String}
  {line : String}

/-- The lines that are said before a question is asked again make no difference to how the conversation
ends. -/
theorem AsksAgain.endAlike {again : Turn} (h : AsksAgain question resume again)
    (hresume : AlikeAfter resume resume) (ht : Holds cancel unread t) (hu : Holds cancel unread u) :
    EndAlike (again.run aspects t) ((Turn.ask question lines resume).run aspects u) := by
  induction h generalizing t with
  | ask n => exact (Alike.ask hresume).endAlike ht hu
  | @write text n next _ ih =>
      obtain ⟨t₁, hwrite, ht₁⟩ := ht.writeLine text
      rw [Turn.run_write, hwrite]
      exact ih ht₁

/-- The conversation whose next call rejects a line ends without the line as it does with it. -/
theorem RejectsNext.endAlike (h : RejectsNext aspects turn t front line after) (hturn : Alike turn turn)
    (ht : Holds cancel unread t) (hu : Holds cancel (front ++ after) u) :
    EndAlike (turn.run aspects t) (turn.run aspects u) := by
  cases h with
  | @ask question n resume _ _ _ hunread hcancel hagain =>
      cases hturn with
      | ask hresume =>
          obtain rfl : unread = line :: after := ht.unread.symm.trans hunread
          obtain ⟨t₁, hread, ht₁⟩ := ht.readLine question.prompt question.source?
          rw [firstLine, if_neg (ht.cancels ▸ hcancel)] at hread
          have hrun : (Turn.ask question n resume).run aspects t =
              (question.respond aspects line (n + 1) resume).run aspects t₁ := by
            rw [Turn.run_ask, hread]
            rfl
          rw [hrun]
          exact hagain.endAlike hresume ht₁ hu
  | @confirm prompt default n next _ _ _ _ hunread hfront hline =>
      cases hturn with
      | confirm hnext =>
          obtain rfl : unread = front ++ line :: after := ht.unread.symm.trans hunread
          have hanswer : firstAnswer cancel default (front ++ line :: after) =
              firstAnswer cancel default (front ++ after) :=
            firstAnswer_of_unclear (ht.cancels ▸ hfront) (ht.cancels ▸ hline)
          obtain ⟨t₁, hconfirm, ht₁⟩ := ht.confirm prompt default
          obtain ⟨u₁, hconfirm', hu₁⟩ := hu.confirm prompt default
          rw [hanswer] at hconfirm ht₁
          rw [Turn.run_confirm, Turn.run_confirm, hconfirm, hconfirm']
          cases (firstAnswer cancel default (front ++ after)).1 with
          | error i => exact ⟨rfl, ht₁.unread.trans hu₁.unread.symm⟩
          | ok yes => exact (hnext yes).endAlike ht₁ hu₁

/-- What is reached from a conversation that is alike itself is alike itself. -/
theorem Alike.reaches {start reached : Turn × Terminal} (h : Alike start.1 start.1)
    (hreach : Turn.Reaches aspects start reached) : Alike reached.1 reached.1 := by
  induction hreach with
  | refl => exact h
  | tail _ hcall ih => exact ih.call hcall

theorem RejectsLine.endAlike {before : List String} (h : RejectsLine aspects turn t before line after)
    (hturn : Alike turn turn) (hworking : t.failAt = none) :
    EndAlike (turn.run aspects t) (turn.run aspects { t with unread := before ++ after }) := by
  obtain ⟨hunread, turn', t', front, hreach, hnext⟩ := h
  have ht : Holds t.cancelLine (before ++ line :: after) t := ⟨hunread, rfl, hworking⟩
  obtain ⟨read, rest, hlines, ht', hreplay⟩ := exists_lines_of_reaches ht hreach
  -- The unclear answers in front of the line are read by the same call, so they are not among `read`.
  have hrest : rest = front ++ line :: after := by
    cases hnext with
    | ask hunread => exact ht'.unread.symm.trans hunread
    | confirm hunread => exact ht'.unread.symm.trans hunread
  have hbefore : before = read ++ front := by
    rw [hrest, ← List.append_assoc] at hlines
    exact List.append_cancel_right hlines
  have hu : Holds t.cancelLine (read ++ (front ++ after)) { t with unread := before ++ after } := by
    refine ⟨?_, rfl, hworking⟩
    rw [hbefore, List.append_assoc]
  obtain ⟨u', hreach', hu'⟩ := hreplay _ _ hu
  have hend := hnext.endAlike (hturn.reaches hreach) ht' hu'
  rw [← hreach.run_eq, ← hreach'.run_eq] at hend
  exact hend

/-- A rejected line has no effect.  Every line that a question refuses is answered by the question.  When a
construction on a working terminal rejects a line, the construction on the terminal without that line ends
with the same value or failure and leaves the same lines unread, and when it ends with a value, the screen is
the same too. -/
theorem rejected_line_has_no_effect {s : Schema} (hdelimiters : s.checkDelimiters = .ok ())
    (aspects : AspectSet) :
    (∀ question typed, Question.Refuses aspects question (Text.trim typed) →
      ∀ lines resume, AsksAgain question resume (question.respond aspects typed lines resume)) ∧
    ∀ t : Terminal, t.failAt = none → ∀ before line after,
      RejectsLine aspects (constructTurn aspects s) t before line after →
        let without := construct s aspects { t with unread := before ++ after }
        without.1 = (construct s aspects t).1 ∧
        without.2.unread = (construct s aspects t).2.unread ∧
        ∀ value, (construct s aspects t).1 = .ok value →
          without.2.screen = (construct s aspects t).2.screen := by
  constructor
  · intro question typed hrefuses lines resume
    exact asksAgain_of_refuses hrefuses
  · intro t hworking before line after hrejects
    obtain ⟨hresult, hunread⟩ := hrejects.endAlike (Alike.constructTurn aspects s) hworking
    refine ⟨hresult.symm, hunread.symm, fun value hvalue => ?_⟩
    have hscreen : ∀ t : Terminal, (construct s aspects t).1 = .ok value →
        (construct s aspects t).2.screen = t.screen ++ [valueLine s.name value] := by
      intro t hvalue
      exact (constructsInOrder hdelimiters aspects t).finished value _ (Prod.ext hvalue rfl)
    rw [hscreen t hvalue]
    exact hscreen { t with unread := before ++ after } (hresult.symm.trans hvalue)

theorem rejected_line_has_no_effect_hero :
    heroSchema.checkDelimiters = .ok () ∧
      RejectsLine .empty (constructTurn .empty heroSchema) { unread := ["", "100", "7"] } [""] "100"
        ["7"] ∧
      (construct heroSchema .empty { unread := ["", "7"] }).1 =
        (construct heroSchema .empty { unread := ["", "100", "7"] }).1 ∧
      (construct heroSchema .empty { unread := ["", "7"] }).2.unread =
        (construct heroSchema .empty { unread := ["", "100", "7"] }).2.unread := by
  have hdelimiters : heroSchema.checkDelimiters = .ok () := rfl
  have hrejects : RejectsLine .empty (constructTurn .empty heroSchema) { unread := ["", "100", "7"] }
      [""] "100" ["7"] := by
    refine ⟨rfl, _, _, [], Turn.reaches_makeCalls .empty 3 _ _, ?_⟩
    exact .ask rfl (by decide) (.ask _)
  obtain ⟨hresult, hunread, -⟩ :=
    (rejected_line_has_no_effect hdelimiters .empty).2 _ rfl _ _ _ hrejects
  exact ⟨hdelimiters, hrejects, hresult, hunread⟩

end CommandForms.Dialogue
