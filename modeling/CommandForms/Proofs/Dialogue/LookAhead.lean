import CommandForms.Proofs.Dialogue.Determined
import CommandForms.Proofs.Dialogue.Validity

/-!
# Lines ahead and earlier lines

An activity that every interruption ends reads no line behind the one that decides its result.  Neither the
lines that follow nor what was on the terminal before make a difference to it.
-/

namespace CommandForms.Dialogue

variable {α : Type} {Fatal : Interruption → Prop} {f : Activity α} {es : List Exchange}
  {t t' u : Terminal} {read ahead : List String}

/-- An activity does the same on two terminals: it makes the same calls, which are given the same replies,
logs the same events, adds the same lines to the transcript and comes to the same result.  On the second
terminal it leaves these lines unread. -/
structure RunsAlike (f : Activity α) (t u : Terminal) (ahead : List String) : Prop where
  result : (f u).1 = (f t).1
  unread : (f u).2.unread = ahead
  exchanges : ∃ es, (∀ es', Exchanges t es' (f t).2 ↔ es' = es) ∧
    ∀ es', Exchanges u es' (f u).2 ↔ es' = es
  log : ∃ events, (f t).2.log = events ++ t.log ∧ (f u).2.log = events ++ u.log
  transcript : ∃ lines, (f t).2.transcript = t.transcript ++ lines ∧
    (f u).2.transcript = u.transcript ++ lines

/-- The lines that an activity reads decide its result: they make it end with a value, or one of them is the
line that cancels. -/
structure DecidedBy (f : Activity α) (t : Terminal) (read : List String) : Prop where
  lines : t.unread = read ++ (f t).2.unread
  outcome : (∃ value, (f t).1 = .ok value) ∨
    (f t).1 = .error (.interrupted .cancelled) ∧ ∃ line ∈ t.cancelLine, line ∈ read

/-- An activity runs alike on a terminal that has the lines that were read in front of other ones. -/
theorem runsAlike_of_lines (hes : Exchanges t es (f t).2) (hdetermined : Determined Fatal f es (f t).1)
    (ht : t.failAt = none) (hu : u.failAt = none) (hcancel : u.cancelLine = t.cancelLine)
    (hread : t.unread = read ++ (f t).2.unread) (hlines : u.unread = read ++ ahead)
    (hahead : ahead = (f t).2.unread ∨ Exchanges.Settled t.cancelLine read es) :
    RunsAlike f t u ahead := by
  obtain ⟨read', events, hread', ht', hcarry⟩ := hes.carry (Terminal.works_of_working ht _)
  obtain rfl : read = read' := List.append_cancel_right (hread.symm.trans hread')
  have hes' := hcarry u ahead (Terminal.works_of_working hu _) hcancel hlines hahead
  have hrun := hdetermined.follows u _ hes'
  have hend : (f u).2 = u.advance es.length ahead events := congrArg Prod.snd hrun
  exact {
    result := by rw [hrun]
    unread := congrArg Terminal.unread hend
    exchanges := by
      rw [hend]
      exact ⟨es, fun _ => hes.eq_iff_of_end ht, fun _ => hes'.eq_iff_of_end hu⟩
    log := ⟨events, congrArg Terminal.log ht', congrArg Terminal.log hend⟩
    transcript := by
      rw [ht', hend]
      exact ⟨_, Terminal.transcript_advance _ _ _, Terminal.transcript_advance _ _ _⟩ }

/-- An activity does the same again on a terminal with the same unread lines, whatever was on it before. -/
theorem Conducted.runsAlike (h : Conducted Fatal f t) (ht : t.failAt = none) (hu : u.failAt = none)
    (hcancel : u.cancelLine = t.cancelLine) (hunread : u.unread = t.unread) :
    RunsAlike f t u (f t).2.unread := by
  obtain ⟨es, hes, hdetermined⟩ := h
  obtain ⟨read, _, hread, _⟩ := hes.carry (Terminal.works_of_working ht _)
  exact runsAlike_of_lines hes hdetermined ht hu hcancel hread (hunread.trans hread) (.inl rfl)

/-- The exchanges of an activity that is decided by the lines that it reads are settled by them. -/
theorem settled_of_decidedBy (hes : Exchanges t es (f t).2) (hdetermined : Determined Fatal f es (f t).1)
    (hfatal : ∀ i, Fatal i) (ht : t.failAt = none) (hdecided : DecidedBy f t read) :
    Exchanges.Settled t.cancelLine read es := by
  rintro before e after rfl ⟨i, hreply⟩
  have hinterrupted : e.interrupted i = e := by
    rw [Exchange.interrupted, ← hreply]
  rw [← List.singleton_append, ← List.append_assoc] at hes
  obtain ⟨t₁, hfront, hback⟩ := hes.exists_of_append
  have hrun : f t = (.error (.interrupted i), t₁) :=
    hdetermined.stops before e after i t t₁ rfl (hfatal i) (hinterrupted ▸ hfront)
  constructor
  · obtain ⟨_, _, _, ht₁, _⟩ := hfront.carry (Terminal.works_of_working ht _)
    rw [hrun] at hback
    exact hback.eq_nil_of_end (ht₁ ▸ ht)
  · rcases hdecided.outcome with ⟨value, hvalue⟩ | ⟨_, hline⟩
    · rw [hrun] at hvalue
      cases hvalue
    · exact hline

/-- An activity that every interruption ends runs alike on every terminal that starts with the lines that
decide it. -/
theorem Conducted.runsAlike_of_decidedBy (h : Conducted Fatal f t) (hfatal : ∀ i, Fatal i)
    (ht : t.failAt = none) (hu : u.failAt = none) (hcancel : u.cancelLine = t.cancelLine)
    (hdecided : DecidedBy f t read) (hlines : u.unread = read ++ ahead) : RunsAlike f t u ahead := by
  obtain ⟨es, hes, hdetermined⟩ := h
  exact runsAlike_of_lines hes hdetermined ht hu hcancel hdecided.lines hlines
    (.inr (settled_of_decidedBy hes hdetermined hfatal ht hdecided))

/-- Neither a construction nor the resolution of argument text looks ahead or back.  When the lines that it
reads decide it, it does the same on every terminal that starts with these lines, whatever was written and
read there before, and it leaves all the lines behind them unread. -/
theorem no_look_ahead {t u : Terminal} {read ahead : List String} (ht : t.failAt = none)
    (hu : u.failAt = none) (hcancel : u.cancelLine = t.cancelLine) (hlines : u.unread = read ++ ahead)
    (s : Schema) (aspects : AspectSet) :
    (DecidedBy (construct s aspects) t read → RunsAlike (construct s aspects) t u ahead) ∧
      ∀ raw, DecidedBy (resolve raw s aspects) t read → RunsAlike (resolve raw s aspects) t u ahead := by
  constructor
  · intro hdecided
    exact (conducted_run aspects (constructTurn aspects s) t).runsAlike_of_decidedBy
      (fun _ => trivial) ht hu hcancel hdecided hlines
  · intro raw hdecided
    exact (conducted_run aspects (resolveTurn raw s aspects) t).runsAlike_of_decidedBy
      (fun _ => trivial) ht hu hcancel hdecided hlines

/-- A terminal on which a line has been written. -/
def greetedTerminal (unread : List String) : Terminal :=
  { unread, calls := 1, log := [.wrote "welcome"] }

theorem no_look_ahead_hero :
    ((construct heroSchema .empty (greetedTerminal ["", "7", "quit"])).1 = .ok heroValue ∧
      (construct heroSchema .empty (greetedTerminal ["", "7", "quit"])).2.unread = ["quit"]) ∧
    (resolve " " heroSchema .empty (greetedTerminal ["", "^C", "7"])).1 =
        .error (.interrupted .cancelled) ∧
      (resolve " " heroSchema .empty (greetedTerminal ["", "^C", "7"])).2.unread = ["7"] := by
  constructor
  · have hrun : construct heroSchema .empty { unread := ["", "7"] } = (.ok heroValue, _) :=
      Turn.run_eq_of_makeCalls 8 rfl
    have hdecided : DecidedBy (construct heroSchema .empty) { unread := ["", "7"] } ["", "7"] := by
      refine ⟨?_, .inl ⟨heroValue, ?_⟩⟩
      · rw [hrun]
        rfl
      · rw [hrun]
    have hlines : (greetedTerminal ["", "7", "quit"]).unread = ["", "7"] ++ ["quit"] := rfl
    obtain ⟨hconstruct, -⟩ :=
      no_look_ahead (t := { unread := ["", "7"] }) (u := greetedTerminal _) rfl rfl rfl hlines heroSchema
        .empty
    have halike := hconstruct hdecided
    exact ⟨by rw [halike.result, hrun], halike.unread⟩
  · have hrun : resolve " " heroSchema .empty { unread := ["", "^C"] } =
        (.error (.interrupted .cancelled), _) := Turn.run_eq_of_interrupted 3 rfl
    have hdecided : DecidedBy (resolve " " heroSchema .empty) { unread := ["", "^C"] } ["", "^C"] := by
      refine ⟨?_, .inr ⟨?_, "^C", rfl, by decide⟩⟩
      · rw [hrun]
        rfl
      · rw [hrun]
    have hlines : (greetedTerminal ["", "^C", "7"]).unread = ["", "^C"] ++ ["7"] := rfl
    obtain ⟨-, hresolve⟩ :=
      no_look_ahead (t := { unread := ["", "^C"] }) (u := greetedTerminal _) rfl rfl rfl hlines heroSchema
        .empty
    have halike := hresolve " " hdecided
    exact ⟨by rw [halike.result, hrun], halike.unread⟩

end CommandForms.Dialogue
