import CommandForms.Numeral.Integer
import CommandForms.Text.Blank

/-!
# Reading integers back

The decimal text of a 64-bit integer is read as that integer, and there is no blank in it.
-/

namespace CommandForms.Numeral

/-! ## Digits -/

theorem digit?_of_isDigit {c : Char} (h : c.isDigit = true) : digit? c = some (c.toNat - '0'.toNat) := by
  unfold digit?
  rw [if_pos]
  simpa [Char.isDigit, Char.le_def] using h

theorem digitsValue?_of_isDigit {cs : List Char} {n : Nat} (h : ∀ c ∈ cs, c.isDigit = true) :
    digitsValue? n cs = some (Nat.ofDigitChars 10 cs n) := by
  induction cs generalizing n with
  | nil => rfl
  | cons c cs ih =>
      obtain ⟨hhead, htail⟩ := List.forall_mem_cons.mp h
      rw [digitsValue?, digit?_of_isDigit hhead, Nat.ofDigitChars_cons]
      exact ih htail

theorem isDigit_of_mem_toDigits {n : Nat} {c : Char} (h : c ∈ Nat.toDigits 10 n) :
    c.isDigit = true :=
  Nat.isDigit_of_mem_toDigits (by decide) (by decide) h

theorem natural?_toDigits (n : Nat) : natural? (Nat.toDigits 10 n) = some n := by
  have hvalue : digitsValue? 0 (Nat.toDigits 10 n) = some n := by
    rw [digitsValue?_of_isDigit fun c hc => isDigit_of_mem_toDigits hc,
      Nat.ofDigitChars_ten_toDigits]
  cases hdigits : Nat.toDigits 10 n with
  | nil => exact absurd hdigits Nat.toDigits_ne_nil
  | cons c cs =>
      rw [hdigits] at hvalue
      exact hvalue

/-! ## Signs -/

theorem int64?_toInt (n : Int64) : int64? n.toInt = some n := by
  unfold int64?
  have hleast := n.le_toInt
  have hmost := n.toInt_lt
  rw [if_pos ⟨by omega, by omega⟩, Int64.ofInt_toInt]

theorem readInt64?_toDigits (n : Nat) : readInt64? (Nat.toDigits 10 n) = int64? n := by
  have hvalue := natural?_toDigits n
  unfold readInt64?
  split
  · rename_i hdigits
    have := isDigit_of_mem_toDigits (n := n) (c := '+') (by simp [hdigits])
    cases this
  · rename_i hdigits
    have := isDigit_of_mem_toDigits (n := n) (c := '-') (by simp [hdigits])
    cases this
  · rw [hvalue]
    exact Option.bind_some n _

theorem readInt64?_integerChars (n : Int64) : readInt64? (integerChars n.toInt) = some n := by
  unfold integerChars
  split
  · rename_i hnegative
    have habs : -((n.toInt.natAbs : Nat) : Int) = n.toInt := by omega
    rw [readInt64?, natural?_toDigits]
    change int64? (-((n.toInt.natAbs : Nat) : Int)) = some n
    rw [habs, int64?_toInt]
  · rename_i hnegative
    have habs : ((n.toInt.natAbs : Nat) : Int) = n.toInt := by omega
    rw [readInt64?_toDigits, habs, int64?_toInt]

/-! ## Blanks -/

theorem isBlank_of_isDigit {c : Char} (h : c.isDigit = true) : Text.isBlank c = false := by
  simp only [Char.isDigit, Bool.and_eq_true, decide_eq_true_eq, ge_iff_le, UInt32.le_iff_toNat_le] at h
  have hleast : 48 ≤ c.toNat := h.1
  have hmost : c.toNat ≤ 57 := h.2
  simp only [Text.isBlank, Bool.or_eq_false_iff, Bool.and_eq_false_iff, decide_eq_false_iff_not,
    beq_eq_false_iff_ne]
  omega

theorem isBlank_of_mem_integerChars {n : Int} {c : Char} (h : c ∈ integerChars n) :
    Text.isBlank c = false := by
  unfold integerChars at h
  split at h
  · rcases List.mem_cons.mp h with rfl | h
    · rfl
    · exact isBlank_of_isDigit (isDigit_of_mem_toDigits h)
  · exact isBlank_of_isDigit (isDigit_of_mem_toDigits h)

theorem integerChars_ne_nil (n : Int) : integerChars n ≠ [] := by
  unfold integerChars
  split
  · exact List.cons_ne_nil _ _
  · exact Nat.toDigits_ne_nil

end CommandForms.Numeral
