import CommandForms.Proofs.Computation
import CommandForms.Proofs.Json.Leaves

/-!
# Lists and objects

What stands behind an element of a list or a member of an object, and the loops that read written lists and
objects back, one step at a time and as a whole.  Of a step it is asked only what it makes of one written
element.
-/

namespace CommandForms.Json

variable {σ β : Type} {first : Bool} {c : Char} {cs ds rest tail : List Char} {state state' final : σ}

theorem skipSpace_comma (cs : List Char) : skipSpace (',' :: cs) = ',' :: cs :=
  skipSpace_cons (by decide)

/-! ## What comes next -/

/-- Where an element of a list or a member of an object starts: the first one behind space, and every other
one behind a comma. -/
inductive StartsItem : Bool → List Char → List Char → Prop
  | first {cs rest : List Char} (h : skipSpace cs = rest) : StartsItem true cs rest
  | later {cs middle rest : List Char} (hcomma : skipSpace cs = ',' :: middle)
      (h : skipSpace middle = rest) : StartsItem false cs rest

theorem length_lt_of_skipSpace (h : skipSpace cs = c :: rest) : rest.length < cs.length := by
  have hle := skipSpace_length_le cs
  rwa [h] at hle

theorem StartsItem.length_le (h : StartsItem first cs rest) : rest.length ≤ cs.length := by
  cases h with
  | first h => exact h ▸ skipSpace_length_le cs
  | @later _ middle _ hcomma h =>
      exact h ▸ Nat.le_trans (skipSpace_length_le middle) (Nat.le_of_lt (length_lt_of_skipSpace hcomma))

/-- Behind a list's bracket or an element stands the closing bracket or another element. -/
theorem nextElement_cases {next : Next Unit cs} (h : nextElement first cs = .ok next) :
    (∃ rest hlt, next = .close rest hlt ∧ skipSpace cs = ']' :: rest) ∨
      ∃ c tail hle, next = .item () (c :: tail) hle ∧ c ≠ ']' ∧ StartsItem first cs (c :: tail) := by
  unfold nextElement at h
  split at h
  · cases h
  · rename_i c tail hcs
    dsimp only at h
    split at h
    · rename_i hclose
      cases h
      exact .inl ⟨tail, _, rfl, hclose ▸ hcs⟩
    · rename_i hclose
      cases first with
      | true =>
          cases h
          exact .inr ⟨c, tail, _, rfl, hclose, .first hcs⟩
      | false =>
          rw [if_neg Bool.false_ne_true] at h
          split at h
          · rename_i hcomma
            split at h
            · cases h
            · rename_i d tail' htail
              split at h
              · cases h
              · rename_i hclose'
                cases h
                exact .inr ⟨d, tail', _, rfl, hclose', .later (hcomma ▸ hcs) htail⟩
          · cases h

theorem nextElement_of_close (first : Bool) (h : skipSpace cs = ']' :: rest) :
    ∃ hlt, nextElement first cs = .ok (.close rest hlt) := by
  refine ⟨length_lt_of_skipSpace h, ?_⟩
  unfold nextElement
  split
  · rename_i hcs
    cases hcs.symm.trans h
  · rename_i hcs
    cases hcs.symm.trans h
    rfl

theorem nextElement_of_item (hclose : c ≠ ']') (h : StartsItem first cs (c :: tail)) :
    ∃ hle, nextElement first cs = .ok (.item () (c :: tail) hle) := by
  refine ⟨h.length_le, ?_⟩
  unfold nextElement
  cases h with
  | first h =>
      split
      · rename_i hcs
        cases hcs.symm.trans h
      · rename_i hcs
        cases hcs.symm.trans h
        rw [if_neg hclose]
        rfl
  | later hcomma h =>
      split
      · rename_i hcs
        cases hcs.symm.trans hcomma
      · rename_i hcs
        cases hcs.symm.trans hcomma
        rw [if_neg (by decide), if_neg Bool.false_ne_true, if_pos rfl]
        split
        · rename_i hmiddle
          cases hmiddle.symm.trans h
        · rename_i hmiddle
          cases hmiddle.symm.trans h
          rw [if_neg hclose]

theorem readColon_eq_ok {p : { rest : List Char // rest.length ≤ cs.length }} (h : readColon cs = .ok p) :
    skipSpace cs = ':' :: p.1 := by
  unfold readColon at h
  split at h
  · cases h
  · rename_i hcs
    split at h
    · rename_i hcolon
      cases h
      exact hcolon ▸ hcs
    · cases h

theorem readColon_of_colon (h : skipSpace cs = ':' :: rest) : ∃ hle, readColon cs = .ok ⟨rest, hle⟩ := by
  refine ⟨Nat.le_of_lt (length_lt_of_skipSpace h), ?_⟩
  unfold readColon
  split
  · rename_i hcs
    cases hcs.symm.trans h
  · rename_i hcs
    cases hcs.symm.trans h
    rw [if_pos rfl]

/-- Behind an object's brace or a member stands the closing brace or another key. -/
theorem nextMember_cases {next : Next String cs} (h : nextMember first cs = .ok next) :
    (∃ rest hlt, next = .close rest hlt ∧ skipSpace cs = '\x7d' :: rest) ∨
      ∃ quoted, StartsItem first cs ('"' :: quoted) ∧
        ∃ key hle, readStringTail [] quoted = .ok key ∧ next = .item key.value key.rest hle := by
  unfold nextMember at h
  dsimp only at h
  split at h
  · cases h
  · rename_i c tail hcs
    split at h
    · rename_i hclose
      cases h
      exact .inl ⟨tail, _, rfl, hclose ▸ hcs⟩
    · cases first with
      | true =>
          rw [if_pos rfl] at h
          split at h
          · rename_i hquote
            obtain ⟨key, hkey, hnext⟩ := Except.bind_eq_ok_iff.mp h
            cases hnext
            exact .inr ⟨tail, .first (hquote ▸ hcs), key, _, hkey, rfl⟩
          · cases h
      | false =>
          rw [if_neg Bool.false_ne_true] at h
          split at h
          · rename_i hcomma
            split at h
            · cases h
            · rename_i d tail' htail
              split at h
              · rename_i hquote
                obtain ⟨key, hkey, hnext⟩ := Except.bind_eq_ok_iff.mp h
                cases hnext
                exact .inr ⟨tail', .later (hcomma ▸ hcs) (hquote ▸ htail), key, _, hkey, rfl⟩
              · split at h <;> cases h
          · cases h

theorem nextMember_of_close (first : Bool) (h : skipSpace cs = '\x7d' :: rest) :
    ∃ hlt, nextMember first cs = .ok (.close rest hlt) := by
  refine ⟨length_lt_of_skipSpace h, ?_⟩
  unfold nextMember
  dsimp only
  split
  · rename_i hcs
    cases hcs.symm.trans h
  · rename_i hcs
    cases hcs.symm.trans h
    rfl

theorem nextMember_of_item {quoted : List Char} {key : Parsed String quoted}
    (hkey : readStringTail [] quoted = .ok key) (h : StartsItem first cs ('"' :: quoted)) :
    ∃ hle, nextMember first cs = .ok (.item key.value key.rest hle) := by
  have hle : key.rest.length ≤ cs.length :=
    Nat.le_trans (Nat.le_of_lt key.shorter) (Nat.le_of_lt h.length_le)
  refine ⟨hle, ?_⟩
  unfold nextMember
  dsimp only
  cases h with
  | first h =>
      split
      · rename_i hcs
        cases hcs.symm.trans h
      · rename_i hcs
        cases hcs.symm.trans h
        rw [if_neg (by decide), if_pos rfl, if_pos rfl, hkey]
        rfl
  | later hcomma h =>
      split
      · rename_i hcs
        cases hcs.symm.trans hcomma
      · rename_i hcs
        cases hcs.symm.trans hcomma
        rw [if_neg (by decide), if_neg Bool.false_ne_true, if_pos rfl]
        split
        · rename_i hmiddle
          cases hmiddle.symm.trans h
        · rename_i hmiddle
          cases hmiddle.symm.trans h
          rw [if_pos rfl, hkey]
          rfl

/-! ## Lists -/

/-- A written element starts with a character that neither is space nor ends a list. -/
def StartsElement (chars : List Char) : Prop :=
  ∃ c body, chars = c :: body ∧ isSpace c = false ∧ c ≠ ']'

theorem StartsElement.append {chars : List Char} (h : StartsElement chars) (more : List Char) :
    StartsElement (chars ++ more) := by
  obtain ⟨c, body, rfl, hspace, hclose⟩ := h
  exact ⟨c, body ++ more, rfl, hspace, hclose⟩

theorem nextElement_first (h : StartsElement cs) :
    ∃ hle, nextElement true cs = .ok (.item () cs hle) := by
  obtain ⟨c, body, rfl, hspace, hclose⟩ := h
  exact nextElement_of_item hclose (.first (skipSpace_cons hspace))

theorem nextElement_comma (h : StartsElement cs) :
    ∃ hle, nextElement false (',' :: cs) = .ok (.item () cs hle) := by
  obtain ⟨c, body, rfl, hspace, hclose⟩ := h
  exact nextElement_of_item hclose (.later (skipSpace_comma _) (skipSpace_cons hspace))

theorem yields_foldElements_close {first : Bool}
    {step : σ → (ds : List Char) → ds.length ≤ (']' :: rest).length → Reading σ ds} :
    Yields (foldElements first state (']' :: rest) step) state rest := by
  obtain ⟨hlt, hnext⟩ := nextElement_of_close first (skipSpace_cons (by decide))
  rw [foldElements, hnext]
  exact .intro hlt state

theorem yields_foldElements_item {first : Bool} {ds' : List Char}
    {step : σ → (ds : List Char) → ds.length ≤ cs.length → Reading σ ds}
    (hnext : ∃ hle, nextElement first cs = .ok (.item () ds hle))
    (hstep : ∀ hle, Yields (step state ds hle) state' ds')
    (htail : ∀ hle, Yields (foldElements false state' ds' fun s es hes =>
      step s es (Nat.le_trans hes hle)) final rest) :
    Yields (foldElements first state cs step) final rest := by
  obtain ⟨hle, hnext⟩ := hnext
  rw [foldElements, hnext]
  refine (hstep hle).bind fun hread => ?_
  exact (htail (Nat.le_trans (Nat.le_of_lt hread) hle)).extend _

/-- The texts of elements or members, each behind a comma. -/
def commaEach (chars : β → List Char) (items : List β) : List Char :=
  items.flatMap fun item => ',' :: chars item

theorem endsNumber_commaEach (chars : β → List Char) (items : List β) {close : Char}
    (h : close = ']' ∨ close = '\x7d') : EndsNumber (commaEach chars items ++ close :: rest) := by
  intro c hc
  cases items with
  | nil =>
      cases hc
      rcases h with rfl | rfl <;> decide
  | cons item items =>
      cases hc
      decide

section Elements

variable {chars : β → List Char} {items front : List β}

/-- Elements behind a comma each are read one after the other, the last one in front. -/
theorem yields_foldElements_commaEach
    {step : List β → (ds : List Char) → ds.length ≤ cs.length → Reading (List β) ds}
    (hcs : cs = commaEach chars items ++ ']' :: rest)
    (hstart : ∀ item ∈ items, StartsElement (chars item))
    (hstep : ∀ item ∈ items, ∀ front after hle, EndsNumber after →
      Yields (step front (chars item ++ after) hle) (item :: front) after) :
    Yields (foldElements false front cs step) (items.reverse ++ front) rest := by
  -- What has been read gathers in `front`, the last element first.
  induction items generalizing front cs with
  | nil =>
      subst hcs
      exact yields_foldElements_close
  | cons item items ih =>
      obtain ⟨hitem, hitems⟩ := List.forall_mem_cons.mp hstart
      obtain ⟨hread, hreads⟩ := List.forall_mem_cons.mp hstep
      have hends : EndsNumber (commaEach chars items ++ ']' :: rest) :=
        endsNumber_commaEach chars items (.inl rfl)
      rw [commaEach, List.flatMap_cons, ← commaEach, List.cons_append, List.cons_append,
        List.append_assoc] at hcs
      subst hcs
      rw [List.reverse_cons, List.append_assoc, List.singleton_append]
      refine yields_foldElements_item (nextElement_comma (hitem.append _))
        (fun hle => hread front _ hle hends) fun hle => ?_
      exact ih rfl hitems fun item hmem front after hle => hreads item hmem front after _

theorem yields_foldElements
    {step : List β → (ds : List Char) → ds.length ≤ cs.length → Reading (List β) ds}
    (hcs : cs = (commaEach chars items).tail ++ ']' :: rest)
    (hstart : ∀ item ∈ items, StartsElement (chars item))
    (hstep : ∀ item ∈ items, ∀ front after hle, EndsNumber after →
      Yields (step front (chars item ++ after) hle) (item :: front) after) :
    Yields (foldElements true front cs step) (items.reverse ++ front) rest := by
  cases items with
  | nil =>
      subst hcs
      exact yields_foldElements_close
  | cons item items =>
      obtain ⟨hitem, hitems⟩ := List.forall_mem_cons.mp hstart
      obtain ⟨hread, hreads⟩ := List.forall_mem_cons.mp hstep
      have hends : EndsNumber (commaEach chars items ++ ']' :: rest) :=
        endsNumber_commaEach chars items (.inl rfl)
      rw [commaEach, List.flatMap_cons, ← commaEach, List.cons_append, List.tail_cons,
        List.append_assoc] at hcs
      subst hcs
      rw [List.reverse_cons, List.append_assoc, List.singleton_append]
      refine yields_foldElements_item (nextElement_first (hitem.append _))
        (fun hle => hread front _ hle hends) fun hle => ?_
      exact yields_foldElements_commaEach rfl hitems
        fun item hmem front after hle => hreads item hmem front after _

end Elements

/-! ## Objects -/

theorem stringChars_append (s : String) (cs : List Char) :
    stringChars s ++ cs = '"' :: (s.toList.flatMap escapedChar ++ '"' :: cs) := by
  rw [stringChars, List.cons_append, List.cons_append, List.append_assoc, List.singleton_append]

theorem nextMember_first (key : String) (ds : List Char) :
    ∃ hle, nextMember true (stringChars key ++ ds) = .ok (.item key ds hle) := by
  obtain ⟨hlt, hread⟩ := @yields_readStringTail ds key
  rw [stringChars_append]
  exact nextMember_of_item hread (.first (skipSpace_cons (by decide)))

theorem nextMember_comma (key : String) (ds : List Char) :
    ∃ hle, nextMember false (',' :: (stringChars key ++ ds)) = .ok (.item key ds hle) := by
  obtain ⟨hlt, hread⟩ := @yields_readStringTail ds key
  rw [stringChars_append]
  exact nextMember_of_item hread (.later (skipSpace_comma _) (skipSpace_cons (by decide)))

theorem yields_foldMembers_close {first : Bool}
    {step : σ → String → (ds : List Char) → ds.length ≤ ('\x7d' :: rest).length → Reading σ ds} :
    Yields (foldMembers first state ('\x7d' :: rest) step) state rest := by
  obtain ⟨hlt, hnext⟩ := nextMember_of_close first (skipSpace_cons (by decide))
  rw [foldMembers, hnext]
  exact .intro hlt state

theorem yields_foldMembers_item {first : Bool} {key : String} {ds' : List Char}
    {step : σ → String → (ds : List Char) → ds.length ≤ cs.length → Reading σ ds}
    (hnext : ∃ hle, nextMember first cs = .ok (.item key ds hle))
    (hstep : ∀ hle, Yields (step state key ds hle) state' ds')
    (htail : ∀ hle, Yields (foldMembers false state' ds' fun s k es hes =>
      step s k es (Nat.le_trans hes hle)) final rest) :
    Yields (foldMembers first state cs step) final rest := by
  obtain ⟨hle, hnext⟩ := hnext
  rw [foldMembers, hnext]
  refine (hstep hle).bind fun hread => ?_
  exact (htail (Nat.le_trans (Nat.le_of_lt hread) hle)).extend _

theorem readColon_eq (cs : List Char) : ∃ hle, readColon (':' :: cs) = .ok ⟨cs, hle⟩ :=
  readColon_of_colon (skipSpace_cons (by decide))

def memberChars (member : String × Value) : List Char :=
  stringChars member.1 ++ ':' :: member.2.chars

theorem memberChars_append (member : String × Value) (cs : List Char) :
    memberChars member ++ cs = stringChars member.1 ++ ':' :: (member.2.chars ++ cs) := by
  rw [memberChars, List.append_assoc, List.cons_append]

theorem key_not_mem_before {before members later : List (String × Value)} {member : String × Value}
    (hmembers : before ++ member :: later = members) (hnodup : (members.map (·.1)).Nodup) :
    member.1 ∉ before.map (·.1) := by
  rw [← hmembers, List.map_append, List.map_cons] at hnodup
  exact fun h => (List.nodup_append.mp hnodup).2.2 _ h _ (.head _) rfl

section Members

variable (progress : List (String × Value) → σ) {front members : List (String × Value)}

/-- Members behind a comma each are read one after the other; what has been read of an object is told by the
members in front. -/
theorem yields_foldMembers_commaEach
    {step : σ → String → (ds : List Char) → ds.length ≤ cs.length → Reading σ ds}
    (hcs : cs = commaEach memberChars members ++ '\x7d' :: rest)
    (hstep : ∀ before member later, before ++ member :: later = front ++ members →
      ∀ after hle, EndsNumber after →
        Yields (step (progress before) member.1 (':' :: (member.2.chars ++ after)) hle)
          (progress (before ++ [member])) after) :
    Yields (foldMembers false (progress front) cs step) (progress (front ++ members)) rest := by
  induction members generalizing front cs with
  | nil =>
      subst hcs
      rw [List.append_nil]
      exact yields_foldMembers_close
  | cons member members ih =>
      have hends : EndsNumber (commaEach memberChars members ++ '\x7d' :: rest) :=
        endsNumber_commaEach memberChars members (.inr rfl)
      rw [commaEach, List.flatMap_cons, ← commaEach, List.cons_append, List.cons_append,
        List.append_assoc, memberChars_append] at hcs
      subst hcs
      refine yields_foldMembers_item (nextMember_comma _ _)
        (fun hle => hstep front member members rfl _ hle hends) fun hle => ?_
      -- The member moves to the end of `front`; the whole list stays the one that `hstep` speaks of.
      have happend : front ++ member :: members = front ++ [member] ++ members :=
        List.append_cons front member members
      rw [happend] at hstep ⊢
      exact ih rfl fun before member later hmembers after hle =>
        hstep before member later hmembers after _

theorem yields_foldMembers
    {step : σ → String → (ds : List Char) → ds.length ≤ cs.length → Reading σ ds}
    (hcs : cs = (commaEach memberChars members).tail ++ '\x7d' :: rest)
    (hstep : ∀ before member later, before ++ member :: later = members →
      ∀ after hle, EndsNumber after →
        Yields (step (progress before) member.1 (':' :: (member.2.chars ++ after)) hle)
          (progress (before ++ [member])) after) :
    Yields (foldMembers true (progress []) cs step) (progress members) rest := by
  cases members with
  | nil =>
      subst hcs
      exact yields_foldMembers_close
  | cons member members =>
      have hends : EndsNumber (commaEach memberChars members ++ '\x7d' :: rest) :=
        endsNumber_commaEach memberChars members (.inr rfl)
      rw [commaEach, List.flatMap_cons, ← commaEach, List.cons_append, List.tail_cons,
        List.append_assoc, memberChars_append] at hcs
      subst hcs
      refine yields_foldMembers_item (nextMember_first _ _)
        (fun hle => hstep [] member members rfl _ hle hends) fun hle => ?_
      change Yields (foldMembers false (progress [member]) _ _) (progress ([member] ++ members)) rest
      exact yields_foldMembers_commaEach progress rfl
        fun before member later hmembers after hle => hstep before member later hmembers after _

end Members

end CommandForms.Json
