import CommandForms.Proofs.Dialogue.Screen
import CommandForms.Proofs.Schema.Delimiters

/-!
# Conversations that do not break

Three steps of a conversation are not always possible: to use a delimiter pattern, which may not be well
formed; to name the last of the items of a list, of which there may be none; and to remove the item at an
index, at which there may be none.  No conversation for a schema with well-formed delimiters comes to a
step that is not possible, whatever is typed.
-/

namespace CommandForms.Dialogue

open CommandForms.Json (Value)

/-- A conversation on a terminal comes to a step that is not possible: a delimiter is not well formed, an
item is to be removed from none, or an index is accepted that is not the index of an item. -/
inductive Breaks (aspects : AspectSet) : Turn → Terminal → Prop
  | delimiter (e : BadDelimiter) (t : Terminal) : Breaks aspects (.abort e) t
  | noItem {name : String} {element : Schema} {length : CountBounds} {lines : Nat}
      {resume : Value → Nat → Turn} {question : Question} {typed : String} {t t' : Terminal}
      (hquestion : question = .action name element length [])
      (hread : t.readLine question.prompt question.source? = (.ok typed, t'))
      (hremove : Action.ofLine? (Action.available length 0) (Text.trim typed) = some .remove) :
      Breaks aspects (.ask question lines resume) t
  | noSuchItem {name : String} {element : Schema} {length : CountBounds} {items : List Value}
      {lines : Nat} {resume : Value → Nat → Turn} {question : Question} {typed answer : String}
      {index : Int64} {t t' : Terminal}
      (hquestion : question = .action name element length items)
      (hread : t.readLine question.prompt question.source? = (.ok typed, t'))
      (hremove : Action.ofLine? (Action.available length items.length) (Text.trim typed) =
        some .remove)
      (hindex : readNumber? (indexOptions items) (Text.trim answer) = some index)
      (hoffset : 0 ≤ index.toInt) (hbeyond : items.length ≤ index.toInt.toNat) :
      Breaks aspects (.ask question lines resume) t
  | later {turn turn' : Turn} {t t' : Terminal}
      (hcall : turn.call? aspects t = some (.ok turn', t')) (hbreaks : Breaks aspects turn' t') :
      Breaks aspects turn t

/-- A conversation on a terminal neither breaks nor ends with a bad delimiter. -/
structure Unbroken (aspects : AspectSet) (turn : Turn) (t : Terminal) : Prop where
  steps : ¬ Breaks aspects turn t
  ending : ∀ e, (turn.run aspects t).1 ≠ .error (.badDelimiter e)

variable {aspects : AspectSet} {s : Schema} {turn turn' : Turn} {t t' : Terminal}

/-! ## Removals -/

theorem Action.remove_mem_available {length : CountBounds} {count : Nat} :
    Action.remove ∈ Action.available length count ↔ 0 < count := by
  unfold Action.available
  grind

theorem Action.pos_of_ofLine?_remove {length : CountBounds} {count : Nat} {line : String}
    (h : Action.ofLine? (Action.available length count) line = some .remove) : 0 < count :=
  Action.remove_mem_available.mp (Action.mem_of_ofLine? h)

/-- The last index of a list with items, as far as it is one, is not beyond them. -/
theorem toInt_lastIndex_lt {count : Nat} (h : 0 < count) :
    (Int64.ofNat (count - 1)).toInt < count := by
  have hmod : (Int64.ofNat (count - 1)).toInt = ((count - 1 : Nat) : Int).bmod (2 ^ 64) :=
    Int64.toInt_ofNat
  rw [hmod]
  -- As a 64-bit integer the index may wrap around, but then it is negative.
  unfold Int.bmod
  dsimp only
  split <;> omega

/-- Every index that is accepted is that of an item, unless it is negative. -/
theorem toInt_lt_of_readNumber? {items : List Value} {line : String} {index : Int64}
    (hitems : 0 < items.length) (h : readNumber? (indexOptions items) line = some index) :
    index.toInt < items.length := by
  have hlast := toInt_lastIndex_lt hitems
  rcases numberFits_of_readNumber? h with hdefault | ⟨_, hbounds⟩
  · cases hdefault
    exact hlast
  · have hmost : index.toInt ≤ (Int64.ofNat (items.length - 1)).toInt := by
      have hboth := (Bool.and_eq_true _ _).mp hbounds
      exact of_decide_eq_true hboth.2
    exact Int.lt_of_le_of_lt hmost hlast

/-! ## Runs -/

/-- A conversation breaks only where its run ends with a bad delimiter: removals never break. -/
theorem Breaks.exists_run (h : Breaks aspects turn t) :
    ∃ e, (turn.run aspects t).1 = .error (.badDelimiter e) := by
  induction h with
  | delimiter e t => exact ⟨e, congrArg Prod.fst (Turn.run_of_ending? rfl)⟩
  | noItem _ _ hremove => exact absurd (Action.pos_of_ofLine?_remove hremove) (Nat.lt_irrefl 0)
  | noSuchItem _ _ hremove hindex hoffset hbeyond =>
      have hlt := toInt_lt_of_readNumber? (Action.pos_of_ofLine?_remove hremove) hindex
      omega
  | later hcall _ ih =>
      rw [Turn.run_of_call? hcall]
      exact ih

theorem Unbroken.of_ending (h : ∀ e, (turn.run aspects t).1 ≠ .error (.badDelimiter e)) :
    Unbroken aspects turn t := by
  refine ⟨fun hbreaks => ?_, h⟩
  obtain ⟨e, hrun⟩ := hbreaks.exists_run
  exact h e hrun

/-- An orderly conversation ends with a value or with an interruption. -/
theorem Orderly.unbroken {base : List String} {Q : Value → List String → Prop}
    (h : Orderly aspects base Q turn t) : Unbroken aspects turn t := by
  apply Unbroken.of_ending
  intro e hrun
  obtain ⟨⟨i, hinterrupted⟩, _⟩ := h.interrupted (.badDelimiter e) _ (Prod.ext hrun rfl)
  cases hinterrupted

/-- No construction breaks when the delimiters of its schema are well formed. -/
theorem unbroken_constructTurn (hs : s.checkDelimiters = .ok ()) (aspects : AspectSet)
    (t : Terminal) : Unbroken aspects (constructTurn aspects s) t :=
  (orderly_constructTurn hs aspects t).unbroken

/-- Argument text is resolved without breaking, whether it gives the value or not. -/
theorem unbroken_resolveTurn (hs : s.checkDelimiters = .ok ()) (aspects : AspectSet) (raw : String)
    (t : Terminal) : Unbroken aspects (resolveTurn raw s aspects) t := by
  apply Unbroken.of_ending
  intro e hrun
  change (resolve raw s aspects t).1 = _ at hrun
  cases hread : readArguments raw s aspects with
  | ok value =>
      rw [resolve_of_accepted hread] at hrun
      cases hrun
  | error reason =>
      cases reason with
      | none =>
          rw [resolve_of_blank hread] at hrun
          exact (unbroken_constructTurn hs aspects t).ending e hrun
      | some reason =>
          cases hwrite : t.writeLine reason with
          | mk r t₁ =>
              cases r with
              | ok =>
                  rw [resolve_of_reason hread hwrite] at hrun
                  exact (unbroken_constructTurn hs aspects t₁).ending e hrun
              | error i =>
                  rw [resolve_of_no_reason hread hwrite] at hrun
                  cases hrun

end CommandForms.Dialogue
