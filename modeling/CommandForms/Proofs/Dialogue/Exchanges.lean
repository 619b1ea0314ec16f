import CommandForms.Proofs.Dialogue.Replies

/-!
# Exchanges with a terminal

A call on a terminal and what came back make up an exchange.  Exchanges with a terminal that does not fail
repeat themselves on every terminal whose unread lines start with the lines that were read, whatever is on
its screen, and the log of the terminal tells them.
-/

namespace CommandForms.Dialogue

/-- A call and the reply to it. -/
structure Exchange where
  call : Call
  reply : Except Interruption call.Answer

/-- The same call, interrupted. -/
def Exchange.interrupted (e : Exchange) (i : Interruption) : Exchange :=
  ⟨e.call, .error i⟩

/-- A terminal gives these replies to these calls, one after the other, and is the other terminal then. -/
inductive Exchanges : Terminal → List Exchange → Terminal → Prop
  | nil (t : Terminal) : Exchanges t [] t
  | cons {t t₁ t' : Terminal} {e : Exchange} {es : List Exchange}
      (hcall : e.call.perform t = (e.reply, t₁)) (hrest : Exchanges t₁ es t') :
      Exchanges t (e :: es) t'

namespace Exchanges

variable {t t₁ t' : Terminal} {e : Exchange} {es es' : List Exchange}

theorem cons_iff :
    Exchanges t (e :: es) t' ↔ ∃ t₁, e.call.perform t = (e.reply, t₁) ∧ Exchanges t₁ es t' := by
  constructor
  · intro h
    cases h with
    | cons hcall hrest => exact ⟨_, hcall, hrest⟩
  · rintro ⟨t₁, hcall, hrest⟩
    exact .cons hcall hrest

theorem append (h : Exchanges t es t₁) (h' : Exchanges t₁ es' t') : Exchanges t (es ++ es') t' := by
  induction h with
  | nil => exact h'
  | cons hcall _ ih => exact .cons hcall (ih h')

theorem exists_of_append (h : Exchanges t (es ++ es') t') :
    ∃ t₁, Exchanges t es t₁ ∧ Exchanges t₁ es' t' := by
  induction es generalizing t with
  | nil => exact ⟨t, .nil t, h⟩
  | cons e es ih =>
      cases h with
      | cons hcall hrest =>
          obtain ⟨t₁, hfront, hback⟩ := ih hrest
          exact ⟨t₁, .cons hcall hfront, hback⟩

/-- No exchange but the last is interrupted, and the last one only when a line that cancels was read. -/
def Settled (cancel : Option String) (read : List String) (es : List Exchange) : Prop :=
  ∀ before e after, es = before ++ e :: after → (∃ i, e.reply = .error i) →
    after = [] ∧ ∃ line ∈ cancel, line ∈ read

theorem Settled.tail {cancel : Option String} {read read' : List String}
    (h : Settled cancel (read ++ read') (e :: es))
    (hclear : (∃ answer, e.reply = .ok answer) → ∀ line ∈ cancel, line ∉ read) :
    Settled cancel read' es := by
  intro before e' after hes hinterrupted
  obtain ⟨hafter, line, hline, hmem⟩ := h (e :: before) e' after (by rw [hes]; rfl) hinterrupted
  refine ⟨hafter, line, hline, ?_⟩
  cases hreply : e.reply with
  | error i =>
      obtain ⟨hlast, -⟩ := h [] e es rfl ⟨i, hreply⟩
      rw [hes] at hlast
      cases (List.append_eq_nil_iff.mp hlast).2
  | ok answer => exact (List.mem_append.mp hmem).resolve_left (hclear ⟨answer, hreply⟩ line hline)

/-- Exchanges with a terminal repeat themselves, with the same events, on every terminal that has the lines
that were read in front of other ones, whatever was on it before.  The other lines have to be those of the
first terminal unless the exchanges are settled by what they read. -/
theorem carry (h : Exchanges t es t') (ht : t.Works es.length) :
    ∃ read events, t.unread = read ++ t'.unread ∧ t' = t.advance es.length t'.unread events ∧
      ∀ u ahead, u.Works es.length → u.cancelLine = t.cancelLine → u.unread = read ++ ahead →
        (ahead = t'.unread ∨ Settled t.cancelLine read es) →
        Exchanges u es (u.advance es.length ahead events) := by
  induction h with
  | nil t =>
      refine ⟨[], [], rfl, rfl, fun u ahead _ _ hunread _ => ?_⟩
      obtain rfl : u.unread = ahead := hunread
      exact .nil u
  | @cons t t₁ t' e es hcall hrest ih =>
      rw [List.length_cons, Nat.add_comm] at *
      obtain ⟨hreply, rfl⟩ := Prod.mk.inj
        (hcall.symm.trans (e.call.perform_of_works (ht.mono (Nat.le_add_right 1 _))))
      obtain ⟨read, hread, hclear, hagain⟩ := e.call.exists_read t.cancelLine t.unread
      obtain ⟨read', events', hread', ht', hcarry⟩ := ih (ht.advance _ _)
      have hunread : t.unread = (read ++ read') ++ t'.unread := by
        rw [List.append_assoc, ← hread']
        exact hread
      refine ⟨read ++ read', events' ++ e.call.events t.cancelLine t.unread, hunread, ?_, ?_⟩
      · exact ht'.trans (Terminal.advance_advance _ _ _ _ _)
      · intro u ahead hu hcancel hlines hahead
        obtain ⟨hreply', hevents⟩ := hagain (read' ++ ahead) fun hinterrupted => by
          rcases hahead with rfl | hsettled
          · exact .inl hread'.symm
          · rw [← hreply] at hinterrupted
            obtain ⟨rfl, line, hline, hmem⟩ := hsettled [] e es rfl hinterrupted
            cases hrest
            obtain rfl : read' = [] := List.append_left_eq_self.mp hread'.symm
            exact .inr ⟨line, hline, by simpa using hmem⟩
        have hperform := e.call.perform_of_works (hu.mono (Nat.le_add_right 1 es.length))
        rw [hcancel, hlines, List.append_assoc, hreply', hevents, ← hreply] at hperform
        refine .cons hperform ?_
        rw [← Terminal.advance_advance 1 (read' ++ ahead)]
        refine hcarry _ ahead (hu.advance _ _) hcancel rfl (hahead.imp id fun hsettled => ?_)
        exact hsettled.tail fun hok => hclear (hreply ▸ hok)

theorem exists_log_of_cons (h : Exchanges t (e :: es) t') (ht : t.failAt = none) :
    ∃ later, t'.log = later ++ e.call.opening :: t.log := by
  obtain ⟨t₁, hcall, hrest⟩ := cons_iff.mp h
  obtain ⟨ht₁, later, hlog⟩ := Call.exists_log hcall ht
  obtain ⟨_, events, _, ht', _⟩ := hrest.carry (Terminal.works_of_working ht₁ _)
  refine ⟨events ++ later, ?_⟩
  rw [ht', Terminal.advance, hlog, List.append_assoc]

theorem reply_ne_failed (h : Exchanges t es t') (ht : t.failAt = none) :
    ∀ e ∈ es, ∀ n, e.reply ≠ .error (.failed n) := by
  induction h with
  | nil => exact fun _ hmem => nomatch hmem
  | @cons t t₁ t' e es hcall hrest ih =>
      obtain ⟨hreply, _⟩ := Prod.mk.inj
        (hcall.symm.trans (e.call.perform_of_works (Terminal.works_of_working ht 1)))
      intro e' hmem n
      rcases List.mem_cons.mp hmem with rfl | hmem
      · rw [hreply]
        exact e'.call.reply_ne_failed _ _ n
      · exact ih (Call.exists_log hcall ht).1 e' hmem n

theorem eq_nil_of_end (h : Exchanges t es t) (ht : t.failAt = none) : es = [] := by
  cases es with
  | nil => rfl
  | cons e es =>
      obtain ⟨later, hlog⟩ := h.exists_log_of_cons ht
      have hlength := congrArg List.length hlog
      rw [List.length_append, List.length_cons] at hlength
      omega

theorem eq_of_end (h : Exchanges t es t') (h' : Exchanges t es' t') (ht : t.failAt = none) :
    es = es' := by
  induction h generalizing es' with
  | nil t => exact (h'.eq_nil_of_end ht).symm
  | @cons t t₁ t' e es hcall hrest ih =>
      cases es' with
      | nil =>
          cases h'
          exact (cons hcall hrest).eq_nil_of_end ht
      | cons e' es' =>
          obtain ⟨later, hlog⟩ := (cons hcall hrest).exists_log_of_cons ht
          obtain ⟨later', hlog'⟩ := h'.exists_log_of_cons ht
          have hback := (List.append_inj' (hlog.symm.trans hlog') rfl).2
          have hopening : e.call.opening = e'.call.opening := (List.cons.inj hback).1
          obtain ⟨call, reply⟩ := e
          obtain ⟨call', reply'⟩ := e'
          obtain rfl : call = call' := Call.opening_injective hopening
          obtain ⟨t₁', hcall', hrest'⟩ := cons_iff.mp h'
          obtain ⟨rfl, rfl⟩ := Prod.mk.inj (hcall.symm.trans hcall')
          rw [ih hrest' (Call.exists_log hcall ht).1]

theorem eq_iff_of_end (h : Exchanges t es t') (ht : t.failAt = none) :
    Exchanges t es' t' ↔ es' = es := by
  constructor
  · exact fun h' => h'.eq_of_end h ht
  · rintro rfl
    exact h

end Exchanges

end CommandForms.Dialogue
