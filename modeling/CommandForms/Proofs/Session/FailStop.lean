import CommandForms.Proofs.Dialogue.Validity
import CommandForms.Proofs.Session.Determined

/-!
# Failures of the terminal

A construction, a resolution and a whole session stop at the call at which the terminal fails.  They have
made the calls before it as on a working terminal, they make none after it, and they end with that failure.
-/

namespace CommandForms.Session

open CommandForms.Dialogue

variable {α : Type} {Fatal : Interruption → Prop} {f : Activity α} {es : List Exchange} {t t' : Terminal}
  {n : Nat}

/-- A terminal that is set to fail at its `n`-th call from now on. -/
def failingAt (n : Nat) (t : Terminal) : Terminal :=
  { t with failAt := some (t.calls + n) }

/-- The run of an activity on a terminal that fails at the `n`-th call, beside the exchanges of the run on
the working terminal.  With fewer calls than that, the runs are the same.  Otherwise the first calls are the
same, the failed one is the last, and the log and the unread lines stay as they were in front of it. -/
structure StopsAt (f : Activity α) (t : Terminal) (es : List Exchange) (n : Nat) : Prop where
  same : es.length < n →
    f (failingAt n t) = ((f t).1, { (f t).2 with failAt := some (t.calls + n) }) ∧
      Exchanges (failingAt n t) es { (f t).2 with failAt := some (t.calls + n) }
  stopped : n ≤ es.length → ∃ before : Terminal, ∃ last ∈ es[n - 1]?,
    Exchanges t (es.take (n - 1)) before ∧
      f (failingAt n t) = (.error (.interrupted (.failed (t.calls + n))),
        { before with failAt := some (t.calls + n), calls := t.calls + n }) ∧
      Exchanges (failingAt n t) (es.take (n - 1) ++ [last.interrupted (.failed (t.calls + n))])
        { before with failAt := some (t.calls + n), calls := t.calls + n }

/-- Wherever the terminal fails, an activity stops there: its exchanges with the working terminal are these
and no other ones, and they tell what it does when one of the calls fails. -/
def FailStops (f : Activity α) (t : Terminal) : Prop :=
  ∃ es, (∀ es', Exchanges t es' (f t).2 ↔ es' = es) ∧ ∀ n, 0 < n → StopsAt f t es n

theorem exchanges_failingAt (h : Exchanges t es t') (hworking : t.failAt = none)
    (hn : es.length < n) :
    Exchanges (failingAt n t) es { t' with failAt := some (t.calls + n) } := by
  obtain ⟨read, events, hread, ht', hcarry⟩ := h.carry (Terminal.works_of_working hworking _)
  have hworks : (failingAt n t).Works es.length := by
    rintro k ⟨⟩
    exact .inr (Nat.add_lt_add_left hn t.calls)
  have hsame := hcarry (failingAt n t) t'.unread hworks rfl hread (.inl rfl)
  rw [ht']
  exact hsame

theorem calls_eq (h : Exchanges t es t') (hworking : t.failAt = none) :
    t'.calls = t.calls + es.length := by
  obtain ⟨read, events, _, ht', _⟩ := h.carry (Terminal.works_of_working hworking _)
  rw [ht']
  rfl

theorem failStops_of_conducted (h : Conducted Fatal f t) (hfatal : ∀ n, Fatal (.failed n))
    (hworking : t.failAt = none) : FailStops f t := by
  obtain ⟨es, hes, hdetermined⟩ := h
  refine ⟨es, fun es' => hes.eq_iff_of_end hworking, fun n hpos => ⟨fun hlt => ?_, fun hle => ?_⟩⟩
  · have hsame := exchanges_failingAt hes hworking hlt
    exact ⟨hdetermined.follows _ _ hsame, hsame⟩
  · obtain ⟨m, rfl⟩ := Nat.exists_eq_succ_of_ne_zero (Nat.ne_of_gt hpos)
    rw [Nat.succ_eq_add_one, Nat.add_sub_cancel]
    -- The exchanges are cut at the call that fails.
    have hsplit : es = es.take m ++ es[m] :: es.drop (m + 1) := by
      rw [← List.drop_eq_getElem_cons, List.take_append_drop]
    have hlength : (es.take m).length = m := List.length_take_of_le (Nat.le_of_succ_le hle)
    rw [hsplit] at hes
    obtain ⟨before, hbefore, _⟩ := hes.exists_of_append
    have hcalls : before.calls = t.calls + m := hlength ▸ calls_eq hbefore hworking
    have hlt : (es.take m).length < m + 1 := by omega
    have hsame := exchanges_failingAt hbefore hworking hlt
    have hfailed : t.calls + (m + 1) = before.calls + 1 := by rw [hcalls, Nat.add_assoc]
    rw [hfailed] at hsame ⊢
    have hlast := es[m].call.perform_of_fails
      (show ({ before with failAt := some (before.calls + 1) } : Terminal).failAt = _ from rfl)
    have hwhole := hsame.append (.cons (e := es[m].interrupted _) hlast (.nil _))
    exact ⟨before, es[m], List.getElem?_eq_getElem hle, hbefore,
      hdetermined.stops _ es[m] _ _ _ _ hsplit (hfatal _) hwhole, hwhole⟩

theorem FailStops.eq_error (h : FailStops f t) (hworking : t.failAt = none) (hpos : 0 < n)
    (hn : t.calls + n ≤ (f t).2.calls) :
    (f (failingAt n t)).1 = .error (.interrupted (.failed (t.calls + n))) := by
  obtain ⟨es, honly, hstops⟩ := h
  have hcalls := calls_eq ((honly es).mpr rfl) hworking
  obtain ⟨_, _, _, _, hfailed, _⟩ := (hstops n hpos).stopped (by omega)
  rw [hfailed]

/-- A failure of the terminal is final to constructions, to resolutions of argument text and to sessions,
whatever call it is that fails: nobody takes it for a cancellation, and nothing is written, read or erased
after it. -/
theorem terminal_failure_is_final {t : Terminal} (hworking : t.failAt = none) :
    (∀ s aspects, FailStops (construct s aspects) t ∧ ∀ raw, FailStops (resolve raw s aspects) t) ∧
      ∀ catalog prompt, FailStops (run catalog prompt) t := by
  refine ⟨fun s aspects => ⟨?_, fun raw => ?_⟩, fun catalog prompt => ?_⟩
  · exact failStops_of_conducted (Dialogue.conducted_run aspects (constructTurn aspects s) t)
      (fun _ => trivial) hworking
  · exact failStops_of_conducted (Dialogue.conducted_run aspects (resolveTurn raw s aspects) t)
      (fun _ => trivial) hworking
  · exact failStops_of_conducted (conducted_run catalog prompt t) (fun n => ⟨n, rfl⟩) hworking

def lineSchema : Schema := .string ⟨"line", true⟩ {}

/-- The catalog that has a command for a line of text only. -/
def lineCatalog : Catalog := .insert .empty ⟨"say", none, lineSchema⟩

theorem step_say {t t' : Terminal}
    (hread : t.readLine "line> " (some ⟨[], none⟩) = (.error .cancelled, t')) :
    step lineCatalog "say" t = writeLines ["cancelled"] t' := by
  have hline : Request.ofLine "say" = .command "say" "" := by decide
  have hresolve : resolve "" lineSchema lineCatalog.aspects t =
      (.error (.interrupted .cancelled), t') := by
    refine Turn.run_ask.trans ?_
    change Turn.runAfter _ (Turn.goOn _ (t.readLine "line> " (some ⟨[], none⟩))) = _
    rw [hread]
    rfl
  rw [step, hline, serve_of_known rfl, runCommand, hresolve]

theorem terminal_failure_is_final_say :
    (construct heroSchema .empty { unread := ["", "7"], failAt := some 3 }).1 =
      .error (.interrupted (.failed 3)) ∧
    (run lineCatalog "> " { unread := ["say", "^C", "quit"], failAt := some 3 }).1 =
      .error (.interrupted (.failed 3)) := by
  have hquit : Request.ofLine "quit" = .quit := by decide
  have hconstruct : construct heroSchema .empty { unread := ["", "7"] } = (.ok heroValue, _) :=
    Turn.run_eq_of_makeCalls 8 rfl
  -- The third call of the session is the one that writes that the command was cancelled.
  have hrun : (run lineCatalog "> " { unread := ["say", "^C", "quit"] }).2.calls = 4 := by
    rw [run_eq]
    change (afterStep lineCatalog "> " (step lineCatalog "say" _)).2.calls = 4
    rw [step_say rfl]
    change (run lineCatalog "> " _).2.calls = 4
    rw [run_eq]
    change (afterStep lineCatalog "> " (step lineCatalog "quit" _)).2.calls = 4
    rw [step, hquit]
    rfl
  constructor
  · have hworking : ({ unread := ["", "7"] } : Terminal).failAt = none := rfl
    obtain ⟨hstops, -⟩ := (terminal_failure_is_final hworking).1 heroSchema .empty
    exact hstops.eq_error hworking (Nat.succ_pos 2) (by rw [hconstruct]; decide)
  · have hworking : ({ unread := ["say", "^C", "quit"] } : Terminal).failAt = none := rfl
    have hstops := (terminal_failure_is_final hworking).2 lineCatalog "> "
    exact hstops.eq_error hworking (Nat.succ_pos 2) (by rw [hrun]; decide)

end CommandForms.Session
