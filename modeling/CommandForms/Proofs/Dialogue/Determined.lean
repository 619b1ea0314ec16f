import CommandForms.Proofs.Dialogue.Calls
import CommandForms.Proofs.Dialogue.Exchanges

/-!
# Activities determined by replies

An activity uses a terminal by calls alone: the replies determine the next call, and in the end the result.
Some interruptions are fatal to it, and a call that is interrupted so is its last.  Activities that are put
together from calls and from other activities are determined by replies too; conversations are, and every
interruption is fatal to them.
-/

namespace CommandForms.Dialogue

open CommandForms.Json (Value)

/-- What is done on a terminal, for a result. -/
abbrev Activity (α : Type) := Terminal → Except Failure α × Terminal

variable {α β : Type} {Fatal Fatal' : Interruption → Prop} {f g : Activity α} {es : List Exchange}
  {result : Except Failure α} {t t₁ t' : Terminal}

/-- Exchanges determine an activity: it ends with the result on every terminal that replies so, a fatal
interruption of any of the calls ends it at once, and its result is an interruption only when one of the calls
was interrupted so. -/
structure Determined (Fatal : Interruption → Prop) (f : Activity α) (es : List Exchange)
    (result : Except Failure α) : Prop where
  follows : ∀ u u', Exchanges u es u' → f u = (result, u')
  stops : ∀ before e after i u u', es = before ++ e :: after → Fatal i →
    Exchanges u (before ++ [e.interrupted i]) u' → f u = (.error (.interrupted i), u')
  interrupted : ∀ i, result = .error (.interrupted i) → ∃ e ∈ es, e.reply = .error i

namespace Determined

theorem of_end (hf : ∀ u, f u = (result, u)) (hresult : ∀ i, result ≠ .error (.interrupted i)) :
    Determined Fatal f [] result where
  follows u u' hu := by
    cases hu
    exact hf u
  stops before e after i u u' hes := by
    cases (List.append_eq_nil_iff.mp hes.symm).2
  interrupted i h := absurd h (hresult i)

theorem of_interruption {call : Call} {i : Interruption}
    (hcall : ∀ i' u u', Fatal i' ∨ i' = i → call.perform u = (.error i', u') →
      f u = (.error (.interrupted i'), u')) :
    Determined Fatal f [⟨call, .error i⟩] (.error (.interrupted i)) where
  follows u u' hu := by
    obtain ⟨u₁, hperform, hrest⟩ := Exchanges.cons_iff.mp hu
    cases hrest
    exact hcall i u _ (.inr rfl) hperform
  stops before e after i' u u' hes hi hu := by
    obtain ⟨rfl, rfl, rfl⟩ : before = [] ∧ e = ⟨call, .error i⟩ ∧ after = [] := by
      simpa [List.singleton_eq_append_iff] using hes
    obtain ⟨u₁, hperform, hrest⟩ := Exchanges.cons_iff.mp hu
    cases hrest
    exact hcall i' u _ (.inl hi) hperform
  interrupted i' h := by
    cases h
    exact ⟨_, List.mem_singleton_self _, rfl⟩

theorem cons {call : Call} {reply : Except Interruption call.Answer}
    (hreply : ∀ u u', call.perform u = (reply, u') → f u = g u')
    (hfatal : ∀ i u u', Fatal i → call.perform u = (.error i, u') →
      f u = (.error (.interrupted i), u'))
    (hg : Determined Fatal g es result) : Determined Fatal f (⟨call, reply⟩ :: es) result where
  follows u u' hu := by
    obtain ⟨u₁, hperform, hrest⟩ := Exchanges.cons_iff.mp hu
    rw [hreply u u₁ hperform]
    exact hg.follows u₁ u' hrest
  stops before e after i u u' hes hi hu := by
    cases before with
    | nil =>
        cases hes
        obtain ⟨u₁, hperform, hrest⟩ := Exchanges.cons_iff.mp hu
        cases hrest
        exact hfatal i u _ hi hperform
    | cons first before =>
        cases hes
        obtain ⟨u₁, hperform, hrest⟩ := Exchanges.cons_iff.mp hu
        rw [hreply u u₁ hperform]
        exact hg.stops before e after i u₁ u' rfl hi hrest
  interrupted i h := by
    obtain ⟨e, hmem, hinterrupted⟩ := hg.interrupted i h
    exact ⟨e, List.mem_cons_of_mem _ hmem, hinterrupted⟩

theorem append {h : Activity β} {r : Except Failure β} {es' : List Exchange}
    (hh : Determined Fatal' h es r) (hsub : ∀ i, Fatal i → Fatal' i)
    (hresult : ∀ u u', h u = (r, u') → f u = g u')
    (hfatal : ∀ i u u', Fatal i → h u = (.error (.interrupted i), u') →
      f u = (.error (.interrupted i), u'))
    (hg : Determined Fatal g es' result) : Determined Fatal f (es ++ es') result where
  follows u u' hu := by
    obtain ⟨u₁, hfront, hback⟩ := hu.exists_of_append
    rw [hresult u u₁ (hh.follows u u₁ hfront)]
    exact hg.follows u₁ u' hback
  stops before e after i u u' hes hi hu := by
    rcases List.append_eq_append_iff.mp hes with ⟨middle, rfl, hback⟩ | ⟨middle, hfront, hback⟩
    · rw [List.append_assoc] at hu
      obtain ⟨u₁, hu₁, hrest⟩ := hu.exists_of_append
      rw [hresult u u₁ (hh.follows u u₁ hu₁)]
      exact hg.stops middle e after i u₁ u' hback hi hrest
    · cases middle with
      | nil =>
          obtain rfl : es = before := by simpa using hfront
          obtain ⟨u₁, hu₁, hrest⟩ := hu.exists_of_append
          rw [hresult u u₁ (hh.follows u u₁ hu₁)]
          exact hg.stops [] e after i u₁ u' hback.symm hi hrest
      | cons first middle =>
          cases hback
          exact hfatal i u u' hi (hh.stops before e middle i u u' hfront (hsub i hi) hu)
  interrupted i h := by
    obtain ⟨e, hmem, hinterrupted⟩ := hg.interrupted i h
    exact ⟨e, List.mem_append_right _ hmem, hinterrupted⟩

theorem of_failure {h : Activity β} {failure : Failure} (hh : Determined Fatal' h es (.error failure))
    (hsub : ∀ i, Fatal i → Fatal' i)
    (hfailure : ∀ u u', h u = (.error failure, u') → f u = (.error failure, u'))
    (hfatal : ∀ i u u', Fatal i → h u = (.error (.interrupted i), u') →
      f u = (.error (.interrupted i), u')) : Determined Fatal f es (.error failure) where
  follows u u' hu := hfailure u u' (hh.follows u u' hu)
  stops before e after i u u' hes hi hu :=
    hfatal i u u' hi (hh.stops before e after i u u' hes (hsub i hi) hu)
  interrupted i h := by
    cases h
    exact hh.interrupted i rfl

end Determined

/-- What an activity does on a terminal is determined by its exchanges with that terminal. -/
def Conducted (Fatal : Interruption → Prop) (f : Activity α) (t : Terminal) : Prop :=
  ∃ es, Exchanges t es (f t).2 ∧ Determined Fatal f es (f t).1

namespace Conducted

theorem of_end (hf : ∀ u, f u = (result, u)) (hresult : ∀ i, result ≠ .error (.interrupted i)) :
    Conducted Fatal f t := by
  refine ⟨[], ?_, ?_⟩
  · rw [hf]
    exact .nil t
  · rw [hf]
    exact .of_end hf hresult

theorem mono (h : Conducted Fatal' f t) (hsub : ∀ i, Fatal i → Fatal' i) : Conducted Fatal f t := by
  obtain ⟨es, hes, hdetermined⟩ := h
  refine ⟨es, hes, hdetermined.follows, fun before e after i u u' hsplit hi => ?_,
    hdetermined.interrupted⟩
  exact hdetermined.stops before e after i u u' hsplit (hsub i hi)

/-- A call ends an activity with an interruption, or another activity follows it. -/
theorem of_call (call : Call) (after : Terminal.Outcome call.Answer → Except Failure α × Terminal)
    (hf : ∀ u, f u = after (call.perform u))
    (hfatal : ∀ i u, Fatal i → after (.error i, u) = (.error (.interrupted i), u))
    (hnext : ∀ reply t₁, call.perform t = (reply, t₁) →
      (∃ i, reply = .error i ∧ ∀ u, after (.error i, u) = (.error (.interrupted i), u)) ∨
        Conducted Fatal (fun u => after (reply, u)) t₁) :
    Conducted Fatal f t := by
  have hcall : ∀ reply u u', call.perform u = (reply, u') → f u = after (reply, u') := by
    intro reply u u' hperform
    rw [hf, hperform]
  obtain ⟨reply, t₁, hperform⟩ : ∃ reply t₁, call.perform t = (reply, t₁) := ⟨_, _, rfl⟩
  have hstart := hcall reply t t₁ hperform
  rcases hnext reply t₁ hperform with ⟨i, rfl, hafter⟩ | ⟨es, hes, hdetermined⟩
  · rw [hafter] at hstart
    refine ⟨[⟨call, .error i⟩], ?_, ?_⟩
    · rw [hstart]
      exact .cons hperform (.nil t₁)
    · rw [hstart]
      refine .of_interruption fun i' u u' hi hperform' => ?_
      rw [hcall _ u u' hperform']
      rcases hi with hi | rfl
      · exact hfatal i' u' hi
      · exact hafter u'
  · refine ⟨⟨call, reply⟩ :: es, ?_, ?_⟩
    · rw [hstart]
      exact .cons hperform hes
    · rw [hstart]
      refine hdetermined.cons (hcall reply) fun i u u' hi hperform' => ?_
      rw [hcall _ u u' hperform']
      exact hfatal i u' hi

/-- The failure of a first activity ends an activity, or another activity follows the first one. -/
theorem bind {h : Activity β} (after : Except Failure β × Terminal → Except Failure α × Terminal)
    (hf : ∀ u, f u = after (h u))
    (hfatal : ∀ i u, Fatal i → after (.error (.interrupted i), u) = (.error (.interrupted i), u))
    (hfirst : Conducted Fatal' h t) (hsub : ∀ i, Fatal i → Fatal' i)
    (hnext : ∀ r t₁, h t = (r, t₁) →
      (∃ failure, r = .error failure ∧ ∀ u, after (.error failure, u) = (.error failure, u)) ∨
        Conducted Fatal (fun u => after (r, u)) t₁) :
    Conducted Fatal f t := by
  have hafter : ∀ r u u', h u = (r, u') → f u = after (r, u') := by
    intro r u u' hresult
    rw [hf, hresult]
  have hstops : ∀ i u u', Fatal i → h u = (.error (.interrupted i), u') →
      f u = (.error (.interrupted i), u') := by
    intro i u u' hi hresult
    rw [hafter _ u u' hresult]
    exact hfatal i u' hi
  obtain ⟨es, hes, hdetermined⟩ := hfirst
  obtain ⟨r, t₁, hresult⟩ : ∃ r t₁, h t = (r, t₁) := ⟨_, _, rfl⟩
  have hstart := hafter r t t₁ hresult
  rw [hresult] at hes hdetermined
  rcases hnext r t₁ hresult with ⟨failure, rfl, hpasses⟩ | ⟨es', hes', hdetermined'⟩
  · rw [hpasses] at hstart
    refine ⟨es, ?_, ?_⟩
    · rw [hstart]
      exact hes
    · rw [hstart]
      refine hdetermined.of_failure hsub (fun u u' hfailure => ?_) hstops
      rw [hafter _ u u' hfailure]
      exact hpasses u'
  · refine ⟨es ++ es', ?_, ?_⟩
    · rw [hstart]
      exact hes.append hes'
    · rw [hstart]
      exact hdetermined.append hsub (hafter r) hstops hdetermined'

theorem ne_failed (h : Conducted Fatal f t) (ht : t.failAt = none) (n : Nat) :
    (f t).1 ≠ .error (.interrupted (.failed n)) := by
  obtain ⟨es, hes, hdetermined⟩ := h
  intro hfailed
  obtain ⟨e, hmem, hreply⟩ := hdetermined.interrupted _ hfailed
  exact hes.reply_ne_failed ht e hmem n hreply

/-- On a working terminal an activity takes lines from the front, and the terminal goes on working. -/
theorem exists_advance (h : Conducted Fatal f t) (ht : t.failAt = none) :
    ∃ read calls events, t.unread = read ++ (f t).2.unread ∧
      (f t).2 = t.advance calls (f t).2.unread events := by
  obtain ⟨es, hes, _⟩ := h
  obtain ⟨read, events, hread, hadvance, _⟩ := hes.carry (Terminal.works_of_working ht _)
  exact ⟨read, es.length, events, hread, hadvance⟩

end Conducted

/-! ## Conversations -/

def AnyInterruption : Interruption → Prop :=
  fun _ => True

variable {aspects : AspectSet} {turn : Turn}

theorem conducted_of_call (call : Call) (next : call.Answer → Turn)
    (hrun : ∀ u, turn.run aspects u = Turn.runAfter aspects (Turn.goOn next (call.perform u)))
    (hnext : ∀ answer t₁, call.perform t = (.ok answer, t₁) →
      Conducted AnyInterruption ((next answer).run aspects) t₁) :
    Conducted AnyInterruption (turn.run aspects) t := by
  refine .of_call call (fun outcome => Turn.runAfter aspects (Turn.goOn next outcome)) hrun
    (fun _ _ _ => rfl) fun reply t₁ hperform => ?_
  cases reply with
  | error i => exact .inl ⟨i, rfl, fun _ => rfl⟩
  | ok answer => exact .inr (hnext answer t₁ hperform)

/-- A conversation is determined by replies, and every interruption is fatal to it. -/
theorem conducted_run (aspects : AspectSet) (turn : Turn) (t : Terminal) :
    Conducted AnyInterruption (turn.run aspects) t := by
  -- A question leaves fewer lines unread but may go on with any conversation; the other calls go on with a
  -- part of the conversation.
  induction hlength : t.unread.length using Nat.strongRecOn generalizing turn t with
  | ind n ih =>
      replace hlength := Nat.le_of_eq hlength
      induction turn generalizing t with
      | done value => exact .of_end (fun u => Turn.run_of_ending? rfl) nofun
      | abort e => exact .of_end (fun u => Turn.run_of_ending? rfl) nofun
      | write text lines next ihNext =>
          refine conducted_of_call (.write text) (fun _ => next) (fun _ => Turn.run_write)
            fun _ t₁ hperform => ?_
          have hunread := t.unread_writeLine text
          rw [show t.writeLine text = _ from hperform] at hunread
          exact ihNext t₁ (hunread ▸ hlength)
      | erase lines mark next ihNext =>
          refine conducted_of_call (.erase (lines - mark)) (fun _ => next) (fun _ => Turn.run_erase)
            fun _ t₁ hperform => ?_
          have hunread := t.unread_eraseLines (lines - mark)
          rw [show t.eraseLines (lines - mark) = _ from hperform] at hunread
          exact ihNext t₁ (hunread ▸ hlength)
      | confirm prompt default lines next ihNext =>
          refine conducted_of_call (.confirm prompt default) next (fun _ => Turn.run_confirm)
            fun yes t₁ hperform => ?_
          exact ihNext yes t₁ (Nat.le_trans (Nat.le_of_lt (Terminal.unread_confirm_lt hperform)) hlength)
      | ask question lines resume =>
          refine conducted_of_call (.read question.prompt question.source?)
            (fun line => question.respond aspects line (lines + 1) resume) (fun _ => Turn.run_ask)
            fun line t₁ hperform => ?_
          exact ih _ (Nat.lt_of_lt_of_le (Terminal.unread_readLine_lt hperform) hlength) _ t₁ rfl

end CommandForms.Dialogue
