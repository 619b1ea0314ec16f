import CommandForms.Json.Printer
import CommandForms.Json.Reader
import CommandForms.Proofs.Numeral.Integer

/-!
# Written strings and numbers are read back

A reading yields a value and a rest of the text.  Strings and integers that have been written are read
as what they were, with any text behind a string, and with any text behind a number that does not go on
with it.
-/

namespace CommandForms.Json

variable {α β : Type} {cs ds rest : List Char}

/-- A reading succeeds with a value and leaves a rest. -/
def Yields (reading : Reading α cs) (a : α) (rest : List Char) : Prop :=
  ∃ h, reading = .ok ⟨a, rest, h⟩

namespace Yields

theorem intro (h : rest.length < cs.length) (a : α) :
    Yields (.ok ⟨a, rest, h⟩ : Reading α cs) a rest :=
  ⟨h, rfl⟩

theorem bind {reading : Reading α cs} {a : α} {f : Parsed α cs → Reading β ds} {b : β}
    {rest' : List Char} (h : Yields reading a rest)
    (hf : ∀ hrest, Yields (f ⟨a, rest, hrest⟩) b rest') : Yields (reading >>= f) b rest' := by
  obtain ⟨hrest, rfl⟩ := h
  exact hf hrest

theorem map {reading : Reading α cs} {a : α} (h : Yields reading a rest) (f : α → β) :
    Yields (do return (← reading).map f) (f a) rest :=
  h.bind fun hrest => intro hrest (f a)

theorem extend {reading : Reading α cs} {a : α} (h : Yields reading a rest)
    (hle : cs.length ≤ ds.length) : Yields (do return (← reading).extend hle) a rest :=
  h.bind fun hrest => intro (Nat.lt_of_lt_of_le hrest hle) a

end Yields

theorem skipSpace_cons {c : Char} (h : isSpace c = false) : skipSpace (c :: cs) = c :: cs := by
  rw [skipSpace, List.dropWhile_cons, h]
  rfl

/-! ## Strings -/

theorem hexValue?_control :
    ∀ n < 0x20, Numeral.hexValue? ['0', '0', Nat.digitChar (n / 16), Nat.digitChar (n % 16)] = some n := by
  decide

theorem yields_readHex_control {n : Nat} (h : n < 0x20) :
    Yields (readHex ('0' :: '0' :: Nat.digitChar (n / 16) :: Nat.digitChar (n % 16) :: cs)) n cs := by
  unfold readHex
  simp only [hexValue?_control n h]
  exact .intro _ _

theorem yields_readCodePoint_control {n : Nat} (h : n < 0x20) :
    Yields (readCodePoint ('0' :: '0' :: Nat.digitChar (n / 16) :: Nat.digitChar (n % 16) :: cs))
      (Char.ofNat n) cs := by
  unfold readCodePoint
  refine (yields_readHex_control h).bind fun hrest => ?_
  rw [if_neg (by simp only; omega), if_pos (by simp only; omega)]
  exact .intro hrest _

theorem yields_readEscape_control {c : Char} (h : c.toNat < 0x20) :
    Yields (readEscape ('u' :: '0' :: '0' :: Nat.digitChar (c.toNat / 16) ::
      Nat.digitChar (c.toNat % 16) :: cs)) c cs := by
  have hread : Yields (readCodePoint ('0' :: '0' :: Nat.digitChar (c.toNat / 16) ::
      Nat.digitChar (c.toNat % 16) :: cs)) _ cs := yields_readCodePoint_control h
  rw [Char.ofNat_toNat] at hread
  exact hread.extend _

/-- A character stands for itself, or it is written by an escape that is read as the character. -/
theorem escapedChar_forms (c : Char) :
    (∃ escape, escapedChar c = '\\' :: escape ∧ ∀ cs, Yields (readEscape (escape ++ cs)) c cs) ∨
      (escapedChar c = [c] ∧ c ≠ '"' ∧ c ≠ '\\' ∧ ¬ c.toNat < 0x20) := by
  unfold escapedChar
  split
  · rename_i hquote
    refine .inl ⟨[c], rfl, fun cs => ?_⟩
    rcases hquote with rfl | rfl <;> exact .intro (Nat.lt_succ_self _) _
  · rename_i hquote
    split
    · rename_i hc
      exact .inl ⟨['b'], rfl, fun cs => hc ▸ .intro (Nat.lt_succ_self _) _⟩
    · split
      · rename_i hc
        exact .inl ⟨['t'], rfl, fun cs => hc ▸ .intro (Nat.lt_succ_self _) _⟩
      · split
        · rename_i hc
          exact .inl ⟨['n'], rfl, fun cs => hc ▸ .intro (Nat.lt_succ_self _) _⟩
        · split
          · rename_i hc
            exact .inl ⟨['f'], rfl, fun cs => hc ▸ .intro (Nat.lt_succ_self _) _⟩
          · split
            · rename_i hc
              exact .inl ⟨['r'], rfl, fun cs => hc ▸ .intro (Nat.lt_succ_self _) _⟩
            · split
              · rename_i hcontrol
                exact .inl ⟨_, rfl, fun cs => yields_readEscape_control hcontrol⟩
              · rename_i hcontrol
                obtain ⟨hquote, hbackslash⟩ := not_or.mp hquote
                exact .inr ⟨rfl, hquote, hbackslash, hcontrol⟩

theorem yields_readStringTail_escapedChar {front : List Char} {c : Char} {s : String}
    (h : Yields (readStringTail (c :: front) cs) s rest) :
    Yields (readStringTail front (escapedChar c ++ cs)) s rest := by
  rcases escapedChar_forms c with ⟨escape, hescape, hread⟩ | ⟨hself, hquote, hbackslash, hcontrol⟩
  · rw [hescape, List.cons_append, readStringTail]
    exact (hread cs).bind fun hrest => h.extend _
  · rw [hself, List.singleton_append, readStringTail, if_neg hcontrol]
    · exact h.extend _
    · exact hquote
    · exact hbackslash

theorem yields_readStringTail_flatMap {front : List Char} (chars : List Char) :
    Yields (readStringTail front (chars.flatMap escapedChar ++ '"' :: rest))
      (String.ofList (front.reverse ++ chars)) rest := by
  induction chars generalizing front with
  | nil =>
      rw [List.flatMap_nil, List.nil_append, readStringTail, List.append_nil]
      exact .intro (Nat.lt_succ_self _) _
  | cons c chars ih =>
      have htail := @ih (c :: front)
      rw [List.reverse_cons, List.append_assoc] at htail
      rw [List.flatMap_cons, List.append_assoc]
      exact yields_readStringTail_escapedChar htail

theorem yields_readStringTail (s : String) :
    Yields (readStringTail [] (s.toList.flatMap escapedChar ++ '"' :: rest)) s rest := by
  have h : Yields (readStringTail [] (s.toList.flatMap escapedChar ++ '"' :: rest)) _ rest :=
    yields_readStringTail_flatMap s.toList
  rwa [List.reverse_nil, List.nil_append, String.ofList_toList] at h

/-! ## Numbers -/

/-- A text does not go on with a number that ends in front of it. -/
def EndsNumber (rest : List Char) : Prop :=
  ∀ c ∈ rest.head?, isDigit c = false ∧ c ≠ '.' ∧ c ≠ 'e' ∧ c ≠ 'E'

theorem isDigit_eq (c : Char) : isDigit c = c.isDigit := by
  simp [isDigit, Char.isDigit, Char.le_def]

theorem leadingDigits_append {digits : List Char} (h : ∀ c ∈ digits, isDigit c = true)
    (hrest : EndsNumber rest) :
    leadingDigits (digits ++ rest) = digits.map fun c => c.toNat - '0'.toNat := by
  have hnone : rest.takeWhile isDigit = [] := by
    cases rest with
    | nil => rfl
    | cons c rest => rw [List.takeWhile_cons, (hrest c rfl).1]; rfl
  rw [leadingDigits, List.takeWhile_append_of_pos h, hnone, List.append_nil]

theorem afterDigits_append {digits : List Char} (h : ∀ c ∈ digits, isDigit c = true)
    (hrest : EndsNumber rest) : afterDigits (digits ++ rest) = rest := by
  rw [afterDigits, List.dropWhile_append_of_pos h]
  cases rest with
  | nil => rfl
  | cons c rest => rw [List.dropWhile_cons, (hrest c rfl).1]; rfl

theorem le_ofDigitChars (digits : List Char) (n : Nat) : n ≤ Nat.ofDigitChars 10 digits n := by
  induction digits generalizing n with
  | nil => exact Nat.le_refl n
  | cons c digits ih =>
      rw [Nat.ofDigitChars_cons]
      exact Nat.le_trans (by omega) (ih _)

theorem accumulate_eq {digits : List Char} {n : Nat}
    (h : Nat.ofDigitChars 10 digits n < 18446744073709551616) :
    accumulate n (digits.map fun c => c.toNat - '0'.toNat) = (Nat.ofDigitChars 10 digits n, []) := by
  induction digits generalizing n with
  | nil => rfl
  | cons c digits ih =>
      rw [Nat.ofDigitChars_cons] at h ⊢
      have hle := le_ofDigitChars digits (10 * n + (c.toNat - '0'.toNat))
      rw [List.map_cons, accumulate, if_pos (Nat.lt_of_le_of_lt hle h)]
      exact ih h

/-- Behind the digits of a number of 64 bits, a text that does not go on with them ends the number. -/
theorem readNumberTail_eq {negative : Bool} {digits : List Char} {number : Number}
    (h : Nat.ofDigitChars 10 digits 0 < 18446744073709551616)
    (hnumber : wholeNumber? negative (Nat.ofDigitChars 10 digits 0) = some number)
    (hrest : EndsNumber rest) (hcs : cs = rest) :
    ∃ hle, readNumberTail negative (digits.map fun c => c.toNat - '0'.toNat) cs =
      .ok (number, ⟨rest, hle⟩) := by
  subst hcs
  refine ⟨Nat.le_refl _, ?_⟩
  have hfinish : readNumberTail.finish negative (Nat.ofDigitChars 10 digits 0) [] cs =
      .ok (number, ⟨cs, Nat.le_refl _⟩) := by
    rw [readNumberTail.finish, if_pos List.isEmpty_nil, hnumber]
  unfold readNumberTail
  simp only [accumulate_eq h]
  split
  · exact absurd rfl (hrest '.' rfl).2.1
  · rename_i c rest _
    obtain ⟨-, -, he, hE⟩ := hrest c rfl
    rw [if_neg (not_or.mpr ⟨he, hE⟩)]
    exact hfinish
  · exact hfinish

theorem head_toDigits_ne {n : Nat} {c : Char} {digits : List Char} (h : 0 < n)
    (hdigits : Nat.toDigits 10 n = c :: digits) : c ≠ '0' := by
  induction n using Nat.strongRecOn generalizing c digits with
  | ind n ih =>
      rcases Nat.lt_or_ge n 10 with hlt | hge
      · have hdigit : ∀ d < 10, 0 < d → Nat.digitChar d ≠ '0' := by decide
        rw [Nat.toDigits_of_lt_base hlt] at hdigits
        exact (List.cons.inj hdigits).1 ▸ hdigit n hlt h
      · rw [Nat.toDigits_of_base_le (by decide) hge] at hdigits
        cases hfront : Nat.toDigits 10 (n / 10) with
        | nil => exact absurd hfront Nat.toDigits_ne_nil
        | cons d front =>
            rw [hfront, List.cons_append] at hdigits
            exact (List.cons.inj hdigits).1 ▸ ih (n / 10) (by omega) (by omega) hfront

theorem isDigit_of_mem_toDigits {n : Nat} {c : Char} (h : c ∈ Nat.toDigits 10 n) :
    isDigit c = true := by
  rw [isDigit_eq]
  exact Numeral.isDigit_of_mem_toDigits h

theorem yields_readNumber {negative : Bool} {n : Nat} {number : Number}
    (h : n < 18446744073709551616) (hnumber : wholeNumber? negative n = some number)
    (hrest : EndsNumber rest) (hcs : cs = Nat.toDigits 10 n ++ rest) :
    Yields (readNumber negative cs) number rest := by
  have hvalue : Nat.ofDigitChars 10 (Nat.toDigits 10 n) 0 = n := Nat.ofDigitChars_ten_toDigits
  have hdigit : ∀ c ∈ Nat.toDigits 10 n, isDigit c = true := fun c hc => isDigit_of_mem_toDigits hc
  rw [← hvalue] at h hnumber
  cases hdigits : Nat.toDigits 10 n with
  | nil => exact absurd hdigits Nat.toDigits_ne_nil
  | cons c digits =>
      rw [hdigits] at hcs hdigit h hnumber
      rw [List.cons_append] at hcs
      obtain ⟨hc, hdigit'⟩ := List.forall_mem_cons.mp hdigit
      unfold readNumber
      split
      · cases hcs
      · obtain ⟨rfl, rfl⟩ := List.cons.inj hcs
        -- Only the number zero is written with a leading zero.
        have hzero : n = 0 := by
          rcases Nat.eq_zero_or_pos n with hzero | hpos
          · exact hzero
          · exact absurd rfl (head_toDigits_ne hpos hdigits)
        rw [hzero, Nat.toDigits_of_lt_base (by decide)] at hdigits
        obtain ⟨-, rfl⟩ := List.cons.inj hdigits
        obtain ⟨hle, htail⟩ := readNumberTail_eq h hnumber hrest rfl
        change readNumberTail negative [0] rest = _ at htail
        cases rest with
        | nil =>
            simp only [List.nil_append, htail]
            exact .intro _ _
        | cons d rest =>
            simp only [List.nil_append, (hrest d rfl).1, htail]
            exact .intro _ _
      · obtain ⟨rfl, rfl⟩ := List.cons.inj hcs
        have hlead := leadingDigits_append hdigit hrest
        rw [List.cons_append] at hlead
        obtain ⟨hle, htail⟩ :=
          readNumberTail_eq h hnumber hrest (afterDigits_append hdigit' hrest)
        rw [if_pos hc, hlead, htail]
        exact .intro _ _

/-- The text of an integer is read as the integer, behind its sign when it has one. -/
theorem wholeNumber?_eq {n : Int} (fits : -9223372036854775808 ≤ n ∧ n < 18446744073709551616) :
    wholeNumber? (decide (n < 0)) n.natAbs = some (.integer n fits) := by
  unfold wholeNumber?
  by_cases hnegative : n < 0
  · have habs : -((n.natAbs : Nat) : Int) = n := by omega
    rw [if_pos (decide_eq_true hnegative), dif_pos ⟨by omega, by omega⟩]
    simp only [habs]
  · have habs : ((n.natAbs : Nat) : Int) = n := by omega
    rw [if_neg (by simpa using hnegative), dif_pos (by omega)]
    simp only [habs]

end CommandForms.Json
