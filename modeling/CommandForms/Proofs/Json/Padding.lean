import CommandForms.Proofs.Json.EndsAlike

/-!
# Padded values

A text that is read as a value is read as the same value without the blanks at its ends, and space around
a text makes no difference.
-/

namespace CommandForms.Json

open CommandForms.Text (isBlank)

variable {σ : Type} {first : Bool} {cs ds rest : List Char} {depth : Nat} {c : Char}

/-! ## Lists and objects -/

namespace EndsAlike

/-- An item starts at places that end alike, unless nothing but blanks is left there. -/
theorem startsItem (h : EndsAlike cs ds) (hitem : StartsItem first cs rest) :
    (∀ d ∈ rest, isBlank d = true) ∨
      ∃ c tail tail', rest = c :: tail ∧ StartsItem first ds (c :: tail') ∧ EndsAlike tail tail' := by
  have hskip := h.skipSpace
  cases hitem with
  | first h =>
      rw [h] at hskip
      generalize hds : Json.skipSpace ds = ds' at hskip
      cases hskip with
      | ends hblank _ => exact .inl hblank
      | cons c htail => exact .inr ⟨c, _, _, rfl, .first hds, htail⟩
  | @later _ middle _ hcomma h =>
      obtain ⟨middle', hcomma', hmiddle⟩ := cons_inv (hcomma ▸ hskip) rfl
      have hskip' := hmiddle.skipSpace
      rw [h] at hskip'
      generalize hds : Json.skipSpace middle' = ds' at hskip'
      cases hskip' with
      | ends hblank _ => exact .inl hblank
      | cons c htail => exact .inr ⟨c, _, _, rfl, .later hcomma' hds, htail⟩

theorem readColon (h : EndsAlike cs ds) :
    Except.Refines (fun p q => EndsAlike p.1 q.1) (readColon cs) (readColon ds) := by
  intro p hp
  have hskip := h.skipSpace
  rw [readColon_eq_ok hp] at hskip
  obtain ⟨rest', hds, hrest⟩ := hskip.cons_inv rfl
  obtain ⟨hle, hread⟩ := readColon_of_colon hds
  exact ⟨_, hread, hrest⟩

/-- The elements of a list are read the same when each of them is, and none is read from blanks. -/
theorem foldElements {state : σ} {step : σ → (es : List Char) → Reading σ es}
    (hblank : ∀ s es, (∀ c ∈ es, isBlank c = true) → ∃ fault, step s es = .error fault)
    (hstep : ∀ s es es', EndsAlike es es' → ReadsAlike (step s es) (step s es'))
    (h : EndsAlike cs ds) :
    ReadsAlike (foldElements first state cs fun s es _ => step s es)
      (foldElements first state ds fun s es _ => step s es) := by
  -- The induction is on a bound, since the step's type speaks of the length itself.
  obtain ⟨n, hn⟩ : ∃ n, cs.length < n := ⟨_, Nat.lt_succ_self _⟩
  induction n generalizing first state cs ds with
  | zero => exact absurd hn (Nat.not_lt_zero _)
  | succ n ih =>
      intro p hp
      rw [Json.foldElements] at hp
      obtain ⟨next, hnext, hrest⟩ := Except.bind_eq_ok_iff.mp hp
      rcases nextElement_cases hnext with ⟨rest, hlt, rfl, hclose⟩ | ⟨c, tail, hle, rfl, hclose, hitem⟩
      · obtain ⟨rest', hds, htail⟩ := cons_inv (hclose ▸ h.skipSpace) rfl
        obtain ⟨hlt', hnext'⟩ := nextElement_of_close first hds
        cases hrest
        rw [Json.foldElements, hnext']
        exact ⟨_, rfl, rfl, htail⟩
      · dsimp only at hrest
        rcases h.startsItem hitem with hnone | ⟨_, _, tail', heq, hitem', htail⟩
        · obtain ⟨fault, hfault⟩ := hblank state _ hnone
          rw [hfault] at hrest
          cases hrest
        · cases heq
          obtain ⟨hle', hnext'⟩ := nextElement_of_item hclose hitem'
          rw [Json.foldElements, hnext']
          refine (hstep state _ _ (.cons c htail)).bind ?_ p hrest
          rintro ⟨state', rest, hlt⟩ ⟨_, rest', hlt'⟩ ⟨rfl, hends⟩
          have hshort : rest.length < n := by omega
          exact (ih hends hshort).extend _ _

theorem foldMembers {state : σ} {step : σ → String → (es : List Char) → Reading σ es}
    (hstep : ∀ s key es es', EndsAlike es es' → ReadsAlike (step s key es) (step s key es'))
    (h : EndsAlike cs ds) :
    ReadsAlike (foldMembers first state cs fun s key es _ => step s key es)
      (foldMembers first state ds fun s key es _ => step s key es) := by
  obtain ⟨n, hn⟩ : ∃ n, cs.length < n := ⟨_, Nat.lt_succ_self _⟩
  induction n generalizing first state cs ds with
  | zero => exact absurd hn (Nat.not_lt_zero _)
  | succ n ih =>
      intro p hp
      rw [Json.foldMembers] at hp
      obtain ⟨next, hnext, hrest⟩ := Except.bind_eq_ok_iff.mp hp
      rcases nextMember_cases hnext with ⟨rest, hlt, rfl, hclose⟩ | ⟨quoted, hitem, key, hle, hkey, rfl⟩
      · obtain ⟨rest', hds, htail⟩ := cons_inv (hclose ▸ h.skipSpace) rfl
        obtain ⟨hlt', hnext'⟩ := nextMember_of_close first hds
        cases hrest
        rw [Json.foldMembers, hnext']
        exact ⟨_, rfl, rfl, htail⟩
      · rcases h.startsItem hitem with hnone | ⟨_, _, quoted', heq, hitem', hquoted⟩
        · cases hnone '"' (.head _)
        · cases heq
          obtain ⟨⟨key', behind', hlt'⟩, hkey', rfl, hbehind⟩ := hquoted.readStringTail key hkey
          obtain ⟨hle', hnext'⟩ := nextMember_of_item hkey' hitem'
          rw [Json.foldMembers, hnext']
          refine (hstep state key.value _ _ hbehind).bind ?_ p hrest
          rintro ⟨state', rest, hlt⟩ ⟨_, rest', hlt'⟩ ⟨rfl, hends⟩
          have hkeyShorter := key.shorter
          have hquotedShorter := hitem.length_le
          rw [List.length_cons] at hquotedShorter
          have hshort : rest.length < n := by omega
          exact (ih hends hshort).extend _ _

end EndsAlike

/-! ## Values -/

theorem readValue_of_blank (depth : Nat) (h : ∀ c ∈ (skipSpace cs).head?, isBlank c = true) :
    ∃ fault, readValue depth cs = .error fault := by
  rw [readValue]
  dsimp only
  split
  · exact ⟨_, rfl⟩
  · rename_i c rest hcs
    rw [hcs] at h
    have hne : ∀ d, isBlank d = false → c ≠ d := fun d => ne_of_isBlank (h c rfl)
    refine ⟨.next .expectedValue (c :: rest), ?_⟩
    simp only [hne 'n' rfl, hne 't' rfl, hne 'f' rfl, hne '"' rfl, hne '-' rfl, hne '[' rfl,
      hne '\x7b' rfl, isDigit_of_isBlank (h c rfl), if_false, Bool.false_eq_true]
    rfl

theorem mem_of_mem_head?_skipSpace (h : c ∈ (skipSpace cs).head?) : c ∈ cs :=
  (List.dropWhile_sublist isSpace).subset (List.mem_of_mem_head? h)

namespace EndsAlike

variable {inner : Nat}

theorem readItems (hinner : ∀ {es es'}, EndsAlike es es' →
      ReadsAlike (readValue inner es) (readValue inner es')) (h : EndsAlike cs ds) :
    ReadsAlike
      (Json.foldElements true [] cs fun items es _ => do return (← readValue inner es).map (· :: items))
      (Json.foldElements true [] ds fun items es _ => do return (← readValue inner es).map (· :: items)) := by
  refine h.foldElements ?_ ?_
  · intro items es hes
    obtain ⟨fault, hfault⟩ :=
      readValue_of_blank inner fun c hc => hes c (mem_of_mem_head?_skipSpace hc)
    exact ⟨fault, by rw [hfault]; rfl⟩
  · intro items es es' hes
    exact (hinner hes).bind fun _ _ hread => .ok (hread.map _)

theorem readMembers (hinner : ∀ {es es'}, EndsAlike es es' →
      ReadsAlike (readValue inner es) (readValue inner es')) (h : EndsAlike cs ds) :
    ReadsAlike
      (Json.foldMembers true [] cs fun members key es _ => do
        let colon ← Json.readColon es
        let value ← readValue inner colon.1
        return (value.map fun value => (key, value) :: members).extend colon.2)
      (Json.foldMembers true [] ds fun members key es _ => do
        let colon ← Json.readColon es
        let value ← readValue inner colon.1
        return (value.map fun value => (key, value) :: members).extend colon.2) := by
  refine h.foldMembers ?_
  intro members key es es' hes
  refine hes.readColon.bind fun _ _ hcolon => ?_
  exact (hinner hcolon).bind fun _ _ hread =>
    .ok ((hread.map _).extend _ _)

/-- A value is read the same from two texts that end alike behind the space in front of them. -/
theorem readValue (h : EndsAlike (Json.skipSpace cs) (Json.skipSpace ds)) :
    ReadsAlike (readValue depth cs) (readValue depth ds) := by
  induction depth using Nat.strongRecOn generalizing cs ds with
  | ind depth ih =>
      generalize hcs : Json.skipSpace cs = cs' at h
      generalize hds : Json.skipSpace ds = ds' at h
      cases h with
      | ends hblank _ =>
          obtain ⟨fault, hfault⟩ :=
            readValue_of_blank depth fun c hc => hblank c (hcs ▸ List.mem_of_mem_head? hc)
          rw [hfault]
          exact .error _ _
      | @cons rest rest' c hrest =>
          intro p hp
          rw [Json.readValue] at hp ⊢
          dsimp only at hp ⊢
          split at hp
          · cases hp
          rename_i hcs'
          cases hcs'.symm.trans hcs
          split
          · rename_i hds'
            cases hds'.symm.trans hds
          rename_i hds'
          cases hds'.symm.trans hds
          revert p
          change ReadsAlike _ _
          -- Both readers are at the same character now, and each test on it comes out the same.
          split
          · exact (hrest.readWord (Text.not_blank_of_all rfl)).bind fun _ _ hword => .ok ⟨rfl, hword⟩
          split
          · exact (hrest.readWord (Text.not_blank_of_all rfl)).bind fun _ _ hword => .ok ⟨rfl, hword⟩
          split
          · exact (hrest.readWord (Text.not_blank_of_all rfl)).bind fun _ _ hword => .ok ⟨rfl, hword⟩
          split
          · exact hrest.readStringTail.bind fun _ _ hread => .ok ((hread.map _).extend _ _)
          split
          · exact hrest.readNumber.bind fun _ _ hread => .ok ((hread.map _).extend _ _)
          split
          · exact (EndsAlike.cons c hrest).readNumber.bind fun _ _ hread =>
              .ok ((hread.map _).extend _ _)
          split
          · match depth with
            | 0 => exact .error _ _
            | 1 => exact .error _ _
            | inner + 2 =>
                have hinner := fun {es es'} (hes : EndsAlike es es') => ih _ (Nat.lt_succ_self _) hes.skipSpace
                exact (hrest.readItems hinner).bind fun _ _ hread => .ok ((hread.map _).extend _ _)
          split
          · match depth with
            | 0 => exact .error _ _
            | 1 => exact .error _ _
            | inner + 2 =>
                have hinner := fun {es es'} (hes : EndsAlike es es') => ih _ (Nat.lt_succ_self _) hes.skipSpace
                exact (hrest.readMembers hinner).bind fun _ _ hread => .ok ((hread.map _).extend _ _)
          · exact .error _ _

end EndsAlike

/-! ## Whole texts -/

theorem skipSpace_eq_nil_iff : skipSpace cs = [] ↔ ∀ c ∈ cs, isSpace c = true :=
  List.dropWhile_eq_nil_iff

theorem skipSpace_append (cs ds : List Char) :
    skipSpace (cs ++ ds) = if (skipSpace cs).isEmpty then skipSpace ds else skipSpace cs ++ ds :=
  List.dropWhile_append

namespace EndsAlike

theorem forall_isSpace (h : EndsAlike cs ds) (hcs : ∀ c ∈ cs, isSpace c = true) :
    ∀ d ∈ ds, isSpace d = true := by
  induction h with
  | ends _ hspace => exact hspace
  | cons c h ih =>
      obtain ⟨hc, hcs⟩ := List.forall_mem_cons.mp hcs
      exact List.forall_mem_cons.mpr ⟨hc, ih hcs⟩

theorem append_left (front : List Char) (h : EndsAlike cs ds) : EndsAlike (front ++ cs) (front ++ ds) := by
  induction front with
  | nil => exact h
  | cons c front ih => exact .cons c ih

end EndsAlike

/-- The value of a text is the value of every text that ends alike behind the space in front. -/
theorem readRaw_of_endsAlike {text other : String} {value : Value}
    (h : EndsAlike (skipSpace text.toList) (skipSpace other.toList)) (hread : readRaw text = .ok value) :
    readRaw other = .ok value := by
  unfold readRaw readAll at hread ⊢
  split at hread
  · cases hread
  · rename_i parsed hparsed
    split at hread
    · rename_i hrest
      cases hread
      obtain ⟨parsed', hparsed', hvalue, hends⟩ := h.readValue parsed hparsed
      have hrest' := skipSpace_eq_nil_iff.mpr (hends.forall_isSpace (skipSpace_eq_nil_iff.mp hrest))
      simp only [hparsed', hrest', hvalue]
    · cases hread

/-- No value is read from a text that starts with a blank, the space in front of it aside. -/
theorem isBlank_of_readRaw {text : String} {value : Value} (h : readRaw text = .ok value) :
    ∃ c rest, skipSpace text.toList = c :: rest ∧ isBlank c = false := by
  by_contra hnone
  have hblank : ∀ c ∈ (skipSpace text.toList).head?, isBlank c = true := by
    intro c hc
    obtain ⟨rest, hcs⟩ := List.head?_eq_some_iff.mp hc
    cases hblank : isBlank c with
    | true => rfl
    | false => exact absurd ⟨c, rest, hcs, hblank⟩ hnone
  obtain ⟨fault, hfault⟩ := readValue_of_blank depthLimit hblank
  rw [readRaw, readAll, hfault] at h
  cases h

theorem skipSpace_of_front {front back : List Char} (hspace : skipSpace front = [])
    (hchars : cs = front ++ Text.trimChars cs ++ back) :
    skipSpace cs = skipSpace (Text.trimChars cs ++ back) := by
  conv => lhs; rw [hchars]
  rw [List.append_assoc, skipSpace_append, hspace]
  rfl

theorem readRaw_trim {text : String} {value : Value} (h : readRaw text = .ok value) :
    readRaw (Text.trim text) = .ok value := by
  obtain ⟨front, back, hchars, hfront, hback⟩ := Text.exists_append_trimChars text.toList
  refine readRaw_of_endsAlike ?_ h
  -- The first character behind the space is not blank, so that the blanks in front are all space.
  have hspace : skipSpace front = [] := by
    obtain ⟨c, rest, hskip, hc⟩ := isBlank_of_readRaw h
    cases hcs : skipSpace front with
    | nil => rfl
    | cons d tail =>
        rw [hchars, List.append_assoc, skipSpace_append, hcs] at hskip
        cases hskip
        cases hc.symm.trans (hfront c (mem_of_mem_head?_skipSpace (by rw [hcs]; rfl)))
  have hends : EndsAlike (Text.trimChars text.toList ++ back) (Text.trimChars text.toList ++ []) :=
    .append_left _ (.ends hback nofun)
  rw [List.append_nil] at hends
  rw [skipSpace_of_front hspace hchars, Text.toList_trim]
  exact hends.skipSpace

/-- The blanks that trimming drops at the ends of a text are space. -/
def SpacedEnds (text : String) : Prop :=
  ∃ front back, text.toList = front ++ Text.trimChars text.toList ++ back ∧
    (∀ c ∈ front, isSpace c = true) ∧ ∀ c ∈ back, isSpace c = true

theorem readRaw_of_trim {text : String} {value : Value} (hspaced : SpacedEnds text)
    (h : readRaw (Text.trim text) = .ok value) : readRaw text = .ok value := by
  obtain ⟨front, back, hchars, hfront, hback⟩ := hspaced
  refine readRaw_of_endsAlike ?_ h
  have hends : EndsAlike (Text.trimChars text.toList ++ []) (Text.trimChars text.toList ++ back) :=
    .append_left _ (.ends nofun hback)
  rw [List.append_nil] at hends
  rw [skipSpace_of_front (skipSpace_eq_nil_iff.mpr hfront) hchars, Text.toList_trim]
  exact hends.skipSpace

namespace Value

theorem parse_eq_ok_iff {text : String} {value : Value} :
    parse text = .ok value ↔ ∃ raw, readRaw text = .ok raw ∧ raw.normalize = value := by
  unfold parse
  cases readRaw text with
  | error e => simp [Except.map]
  | ok raw => simp [Except.map]

theorem ne_empty_of_parse {text : String} {value : Value} (h : parse text = .ok value) : text ≠ "" := by
  rintro rfl
  obtain ⟨_, hread, -⟩ := parse_eq_ok_iff.mp h
  obtain ⟨_, _, hskip, -⟩ := isBlank_of_readRaw hread
  cases hskip

theorem parse_trim {text : String} {value : Value} (h : parse text = .ok value) :
    parse (Text.trim text) = .ok value := by
  obtain ⟨raw, hread, hvalue⟩ := parse_eq_ok_iff.mp h
  exact parse_eq_ok_iff.mpr ⟨raw, readRaw_trim hread, hvalue⟩

theorem parse_of_trim {text : String} {value : Value} (hspaced : SpacedEnds text)
    (h : parse (Text.trim text) = .ok value) : parse text = .ok value := by
  obtain ⟨raw, hread, hvalue⟩ := parse_eq_ok_iff.mp h
  exact parse_eq_ok_iff.mpr ⟨raw, readRaw_of_trim hspaced hread, hvalue⟩

end Value

end CommandForms.Json
