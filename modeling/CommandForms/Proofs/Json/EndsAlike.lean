import CommandForms.Proofs.Computation
import CommandForms.Proofs.Json.Values
import CommandForms.Proofs.Text.Blank

/-!
# Texts that end alike

Blanks behind a text may be traded for space, or dropped: the readers of words, strings and numbers read the
same from both texts, and what they leave differs in such an end again.
-/

namespace CommandForms.Json

open CommandForms.Text (isBlank)

/-- Two texts are the same up to their ends, where the first has blanks only and the second has space only. -/
inductive EndsAlike : List Char → List Char → Prop
  | ends {cs ds : List Char} (hblank : ∀ c ∈ cs, isBlank c = true) (hspace : ∀ d ∈ ds, isSpace d = true) :
      EndsAlike cs ds
  | cons {cs ds : List Char} (c : Char) (h : EndsAlike cs ds) : EndsAlike (c :: cs) (c :: ds)

variable {α β : Type} {cs ds : List Char} {c : Char}

/-- Two readings have the same value, and their rests end alike. -/
def Parsed.Alike (p : Parsed α cs) (q : Parsed α ds) : Prop :=
  p.value = q.value ∧ EndsAlike p.rest q.rest

namespace Parsed.Alike

variable {p : Parsed α cs} {q : Parsed α ds}

theorem map (h : p.Alike q) (f : α → β) : (p.map f).Alike (q.map f) :=
  ⟨congrArg f h.1, h.2⟩

theorem extend {cs' ds' : List Char} (h : p.Alike q) (hcs : cs.length ≤ cs'.length)
    (hds : ds.length ≤ ds'.length) : (p.extend hcs).Alike (q.extend hds) :=
  h

end Parsed.Alike

/-- What a reading yields, another one yields too. -/
abbrev ReadsAlike (x : Reading α cs) (y : Reading α ds) : Prop :=
  Except.Refines Parsed.Alike x y

/-- What is read before a rest that may be the whole text is the same, and the rests end alike. -/
def SameAhead {n m : Nat} (p : α × { rest : List Char // rest.length ≤ n })
    (q : α × { rest : List Char // rest.length ≤ m }) : Prop :=
  p.1 = q.1 ∧ EndsAlike p.2.1 q.2.1

theorem ReadsAlike.extend {cs' ds' : List Char} {x : Reading α cs} {y : Reading α ds}
    (h : ReadsAlike x y) (hcs : cs.length ≤ cs'.length) (hds : ds.length ≤ ds'.length) :
    ReadsAlike (do return (← x).extend hcs) (do return (← y).extend hds) :=
  h.bind fun _ _ hread => .ok (hread.extend hcs hds)

/-! ## Blank characters -/

theorem ne_of_isBlank {d : Char} (h : isBlank c = true) (hd : isBlank d = false) : c ≠ d := by
  rintro rfl
  cases h.symm.trans hd

theorem isBlank_of_isDigit (h : isDigit c = true) : isBlank c = false :=
  Numeral.isBlank_of_isDigit (isDigit_eq c ▸ h)

theorem isDigit_of_isBlank (h : isBlank c = true) : isDigit c = false := by
  cases hdigit : isDigit c with
  | false => rfl
  | true => cases (isBlank_of_isDigit hdigit).symm.trans h

theorem isBlank_of_hexDigit? {n : Nat} (h : Numeral.hexDigit? c = some n) : isBlank c = false := by
  have hrange : (48 ≤ c.toNat ∧ c.toNat ≤ 57) ∨ (97 ≤ c.toNat ∧ c.toNat ≤ 102) ∨
      (65 ≤ c.toNat ∧ c.toNat ≤ 70) := by
    unfold Numeral.hexDigit? at h
    split at h
    · rename_i hdigit
      exact .inl hdigit
    · split at h
      · rename_i hlower
        exact .inr (.inl hlower)
      · split at h
        · rename_i hupper
          exact .inr (.inr hupper)
        · cases h
  simp only [isBlank, Bool.or_eq_false_iff, Bool.and_eq_false_iff, decide_eq_false_iff_not,
    beq_eq_false_iff_ne]
  omega

theorem isBlank_of_hexValue? {digits : List Char} {n : Nat} (h : Numeral.hexValue? digits = some n) :
    ∀ c ∈ digits, isBlank c = false := by
  unfold Numeral.hexValue? at h
  generalize 0 = start at h
  induction digits generalizing start with
  | nil => nofun
  | cons c digits ih =>
      rw [List.foldlM_cons] at h
      obtain ⟨next, hnext, hrest⟩ := Option.bind_eq_some_iff.mp h
      obtain ⟨digit, hdigit, _⟩ := Option.bind_eq_some_iff.mp hnext
      exact List.forall_mem_cons.mpr ⟨isBlank_of_hexDigit? hdigit, ih next hrest⟩

namespace EndsAlike

theorem cons_inv (h : EndsAlike (c :: cs) ds) (hc : isBlank c = false) :
    ∃ ds', ds = c :: ds' ∧ EndsAlike cs ds' := by
  cases h with
  | ends hblank hspace => cases hc.symm.trans (hblank c (.head _))
  | cons _ h => exact ⟨_, rfl, h⟩

theorem append_inv (front : List Char) (h : EndsAlike (front ++ cs) ds)
    (hfront : ∀ c ∈ front, isBlank c = false) : ∃ ds', ds = front ++ ds' ∧ EndsAlike cs ds' := by
  induction front generalizing ds with
  | nil => exact ⟨ds, rfl, h⟩
  | cons c front ih =>
      obtain ⟨hc, hfront⟩ := List.forall_mem_cons.mp hfront
      obtain ⟨ds₁, rfl, htail⟩ := h.cons_inv hc
      obtain ⟨ds', rfl, hrest⟩ := ih htail hfront
      exact ⟨ds', rfl, hrest⟩

theorem skipSpace (h : EndsAlike cs ds) : EndsAlike (skipSpace cs) (skipSpace ds) := by
  induction h with
  | ends hblank hspace =>
      refine .ends (fun c hc => hblank c ((List.dropWhile_sublist _).subset hc)) fun d hd => ?_
      exact hspace d ((List.dropWhile_sublist _).subset hd)
  | @cons cs ds c h ih =>
      unfold Json.skipSpace
      rw [List.dropWhile_cons, List.dropWhile_cons]
      split
      · exact ih
      · exact .cons c h

end EndsAlike

/-! ## Words and strings -/

theorem eq_append_of_readWord {word : List Char} {p : { rest : List Char // rest.length ≤ cs.length }}
    (h : readWord word cs = .ok p) : cs = word ++ p.1 := by
  induction word generalizing cs with
  | nil =>
      cases h
      rfl
  | cons w word ih =>
      cases cs with
      | nil => cases h
      | cons c cs =>
          rw [readWord] at h
          split at h
          · rename_i hc
            split at h
            · rename_i hread
              cases h
              exact List.cons_eq_cons.mpr ⟨hc, ih hread⟩
            · cases h
          · cases h

theorem readWord_append (word cs : List Char) : ∃ hle, readWord word (word ++ cs) = .ok ⟨cs, hle⟩ := by
  induction word with
  | nil => exact ⟨Nat.le_refl _, rfl⟩
  | cons w word ih =>
      obtain ⟨hle, hread⟩ := ih
      refine ⟨Nat.le_succ_of_le hle, ?_⟩
      change readWord (w :: word) (w :: (word ++ cs)) = _
      rw [readWord, if_pos rfl, hread]

namespace EndsAlike

theorem readWord {word : List Char} (hword : ∀ w ∈ word, isBlank w = false) (h : EndsAlike cs ds) :
    Except.Refines (fun p q => EndsAlike p.1 q.1) (readWord word cs) (readWord word ds) := by
  intro p hp
  rw [eq_append_of_readWord hp] at h
  obtain ⟨ds', rfl, hrest⟩ := append_inv word h hword
  obtain ⟨hle, hread⟩ := readWord_append word ds'
  exact ⟨_, hread, hrest⟩

theorem readHex (h : EndsAlike cs ds) : ReadsAlike (readHex cs) (readHex ds) := by
  unfold Json.readHex
  split
  · rename_i a b c d rest
    split
    · rename_i n hvalue
      obtain ⟨ds', rfl, hrest⟩ := append_inv [a, b, c, d] h (isBlank_of_hexValue? hvalue)
      simp only [List.cons_append, List.nil_append, hvalue]
      exact .ok ⟨rfl, hrest⟩
    · exact .error _ _
  · split <;> exact .error _ _

theorem readCodePoint (h : EndsAlike cs ds) : ReadsAlike (readCodePoint cs) (readCodePoint ds) := by
  unfold Json.readCodePoint
  refine h.readHex.bind ?_
  rintro ⟨high, rest, hlt⟩ ⟨_, rest', hlt'⟩ ⟨rfl, hrest⟩
  dsimp only at hrest ⊢
  split
  · exact .error _ _
  · split
    · exact .ok ⟨rfl, hrest⟩
    · split
      · exact .error _ _
      · exact .error _ _
      · rename_i rest₁
        obtain ⟨rest₂, rfl, hrest₂⟩ := append_inv ['\\', 'u'] hrest (Text.not_blank_of_all rfl)
        refine hrest₂.readHex.bind ?_
        rintro ⟨low, rest, hlt⟩ ⟨_, rest', hlt'⟩ ⟨rfl, hrest⟩
        dsimp only
        split
        · exact .error _ _
        · exact .ok ⟨rfl, hrest⟩
      · exact .error _ _
      · exact .error _ _

end EndsAlike

theorem readEscape_of_blank (h : ∀ c ∈ cs, isBlank c = true) : ∃ fault, readEscape cs = .error fault := by
  cases cs with
  | nil => exact ⟨_, rfl⟩
  | cons c cs =>
      have hne : ∀ d, isBlank d = false → c ≠ d := fun d => ne_of_isBlank (h c (.head _))
      refine ⟨.next .badEscape (c :: cs), ?_⟩
      rw [readEscape.eq_3 _ _ (hne 'u' rfl)]
      simp only [hne '"' rfl, hne '\\' rfl, hne '/' rfl, hne 'b' rfl, hne 'f' rfl, hne 'n' rfl,
        hne 'r' rfl, hne 't' rfl, or_self, if_false]

theorem readStringTail_of_blank {front : List Char} (h : ∀ c ∈ cs, isBlank c = true) :
    ∃ fault, readStringTail front cs = .error fault := by
  induction cs generalizing front with
  | nil =>
      rw [readStringTail]
      exact ⟨_, rfl⟩
  | cons c cs ih =>
      obtain ⟨hc, hcs⟩ := List.forall_mem_cons.mp h
      rw [readStringTail.eq_4 _ _ _ (ne_of_isBlank hc rfl) (ne_of_isBlank hc rfl)]
      split
      · exact ⟨_, rfl⟩
      · obtain ⟨fault, hfault⟩ := @ih (c :: front) hcs
        rw [hfault]
        exact ⟨_, rfl⟩

namespace EndsAlike

theorem readEscape (h : EndsAlike cs ds) : ReadsAlike (readEscape cs) (readEscape ds) := by
  cases h with
  | ends hblank _ =>
      obtain ⟨fault, hfault⟩ := readEscape_of_blank hblank
      rw [hfault]
      exact .error _ _
  | @cons cs ds c h =>
      by_cases hu : c = 'u'
      · subst hu
        exact h.readCodePoint.extend _ _
      · rw [Json.readEscape.eq_3 _ _ hu, Json.readEscape.eq_3 _ _ hu]
        dsimp only
        split_ifs <;> first | exact .ok ⟨rfl, h⟩ | exact .error _ _

theorem readStringTail {front : List Char} (h : EndsAlike cs ds) :
    ReadsAlike (readStringTail front cs) (readStringTail front ds) := by
  induction hn : cs.length using Nat.strongRecOn generalizing cs ds front with
  | ind n ih =>
      cases h with
      | ends hblank _ =>
          obtain ⟨fault, hfault⟩ := readStringTail_of_blank hblank
          rw [hfault]
          exact .error _ _
      | @cons cs ds c h =>
          by_cases hquote : c = '"'
          · subst hquote
            rw [Json.readStringTail, Json.readStringTail]
            exact .ok ⟨rfl, h⟩
          · by_cases hbackslash : c = '\\'
            · subst hbackslash
              rw [Json.readStringTail, Json.readStringTail]
              refine h.readEscape.bind ?_
              rintro ⟨e, rest, hlt⟩ ⟨_, rest', hlt'⟩ ⟨rfl, hrest⟩
              exact (ih _ (by rw [← hn]; exact Nat.lt_succ_of_lt hlt) hrest rfl).extend _ _
            · rw [Json.readStringTail.eq_4 _ _ _ hquote hbackslash,
                Json.readStringTail.eq_4 _ _ _ hquote hbackslash]
              split
              · exact .error _ _
              · exact (ih _ (by rw [← hn]; exact Nat.lt_succ_self _) h rfl).extend _ _

end EndsAlike

/-! ## Numbers -/

theorem digits_of_blank (h : ∀ c ∈ cs, isBlank c = true) :
    cs.takeWhile isDigit = [] ∧ cs.dropWhile isDigit = cs := by
  cases cs with
  | nil => exact ⟨rfl, rfl⟩
  | cons c cs =>
      rw [List.takeWhile_cons, List.dropWhile_cons, isDigit_of_isBlank (h c (.head _))]
      exact ⟨rfl, rfl⟩

theorem readExponentDigits_of_blank (n : Nat) (h : ∀ c ∈ cs, isBlank c = true) :
    (readExponentDigits n cs).1 = (n, true, cs) := by
  cases cs with
  | nil => rfl
  | cons c cs =>
      rw [readExponentDigits, isDigit_of_isBlank (h c (.head _))]
      rfl

namespace EndsAlike

theorem digits (h : EndsAlike cs ds) :
    leadingDigits cs = leadingDigits ds ∧ EndsAlike (afterDigits cs) (afterDigits ds) := by
  unfold leadingDigits afterDigits
  induction h with
  | @ends cs ds hblank hspace =>
      obtain ⟨htake, hdrop⟩ := digits_of_blank hblank
      obtain ⟨htake', hdrop'⟩ := digits_of_blank fun d hd => Value.isBlank_of_isSpace (hspace d hd)
      rw [htake, htake', hdrop, hdrop']
      exact ⟨rfl, .ends hblank hspace⟩
  | @cons cs ds c h ih =>
      rw [List.takeWhile_cons, List.takeWhile_cons, List.dropWhile_cons, List.dropWhile_cons]
      split
      · exact ⟨congrArg (_ :: ·) ih.1, ih.2⟩
      · exact ⟨rfl, .cons c h⟩

theorem readExponentDigits (n : Nat) (h : EndsAlike cs ds) :
    (readExponentDigits n cs).1.1 = (readExponentDigits n ds).1.1 ∧
      (readExponentDigits n cs).1.2.1 = (readExponentDigits n ds).1.2.1 ∧
      EndsAlike (readExponentDigits n cs).1.2.2 (readExponentDigits n ds).1.2.2 := by
  induction h generalizing n with
  | @ends cs ds hblank hspace =>
      rw [readExponentDigits_of_blank n hblank,
        readExponentDigits_of_blank n fun d hd => Value.isBlank_of_isSpace (hspace d hd)]
      exact ⟨rfl, rfl, .ends hblank hspace⟩
  | @cons cs ds c h ih =>
      rw [Json.readExponentDigits, Json.readExponentDigits]
      split
      · dsimp only
        split
        · exact ⟨rfl, rfl, h⟩
        · exact ih _
      · exact ⟨rfl, rfl, .cons c h⟩

end EndsAlike

/-- The sign in front of the digits of an exponent: whether it is a minus, and what follows it. -/
def exponentSign (cs : List Char) : Bool × List Char :=
  match cs with
  | '-' :: rest => (true, rest)
  | '+' :: rest => (false, rest)
  | rest => (false, rest)

theorem exponentSign_eq (cs : List Char) :
    exponentSign cs = Prod.map id Subtype.val (match cs with
      | '-' :: rest => (true, ⟨rest, Nat.le_succ _⟩)
      | '+' :: rest => (false, ⟨rest, Nat.le_succ _⟩)
      | rest => (false, ⟨rest, Nat.le_refl _⟩) : Bool × { rest : List Char // rest.length ≤ cs.length }) := by
  unfold exponentSign
  split <;> rfl

theorem exponentSign_of_blank (h : ∀ c ∈ cs, isBlank c = true) : exponentSign cs = (false, cs) := by
  unfold exponentSign
  split
  · cases h '-' (.head _)
  · cases h '+' (.head _)
  · rfl

theorem doubleOr_refines {d? : Option Numeral.Double} :
    Except.Refines Eq (doubleOr cs d?) (doubleOr ds d?) := by
  cases d? with
  | none => exact .error _ _
  | some d => exact .ok rfl

namespace EndsAlike

theorem exponentSign (h : EndsAlike cs ds) :
    (exponentSign cs).1 = (exponentSign ds).1 ∧ EndsAlike (exponentSign cs).2 (exponentSign ds).2 := by
  cases h with
  | ends hblank hspace =>
      rw [exponentSign_of_blank hblank,
        exponentSign_of_blank fun d hd => Value.isBlank_of_isSpace (hspace d hd)]
      exact ⟨rfl, .ends hblank hspace⟩
  | @cons cs ds c h =>
      by_cases hminus : c = '-'
      · subst hminus
        exact ⟨rfl, h⟩
      · by_cases hplus : c = '+'
        · subst hplus
          exact ⟨rfl, h⟩
        · rw [Json.exponentSign.eq_3 _ (by grind) (by grind), Json.exponentSign.eq_3 _ (by grind) (by grind)]
          exact ⟨rfl, .cons c h⟩

theorem readExponent {negative : Bool} {significand : Nat} {start : Int} (h : EndsAlike cs ds) :
    ReadsAlike (readExponent negative significand start cs)
      (readExponent negative significand start ds) := by
  intro p hp
  unfold Json.readExponent at hp ⊢
  split at hp
  rename_i down tail hsign
  split at hp
  · cases hp
  · rename_i c rest htail
    split at hp
    · rename_i hdigit
      split at hp
      rename_i n inBounds after hle hdigits
      have hsame := h.exponentSign
      split
      rename_i down' tail' hsign'
      rw [(exponentSign_eq cs).trans (congrArg _ hsign), (exponentSign_eq ds).trans (congrArg _ hsign')] at hsame
      obtain ⟨rfl, htails⟩ : down = down' ∧ EndsAlike tail.1 tail'.1 := hsame
      rw [htail] at htails
      obtain ⟨rest', hrest', hrest⟩ := htails.cons_inv (isBlank_of_isDigit hdigit)
      split
      · rename_i hnil
        cases hnil.symm.trans hrest'
      · rename_i hcons
        cases hcons.symm.trans hrest'
        rw [if_pos hdigit]
        have hafter := hrest.readExponentDigits (c.toNat - '0'.toNat)
        split
        rename_i n' inBounds' after' hle' hdigits'
        rw [hdigits, hdigits'] at hafter
        obtain ⟨rfl, rfl, hafter⟩ := hafter
        revert p
        change ReadsAlike _ _
        dsimp only
        split
        · exact doubleOr_refines.bind fun _ _ hnumber => .ok ⟨hnumber, hafter⟩
        · split
          · exact .error _ _
          · exact .ok ⟨rfl, hafter.digits.2⟩
    · cases hp

end EndsAlike

/-- A mark that stands in front of one of two texts stands in front of the other. -/
theorem EndsAlike.head?_eq {d : Char} (h : EndsAlike cs ds) (hd : isBlank d = false)
    (hhead : ds.head? = some d) : cs.head? = some d := by
  cases h with
  | ends _ hspace =>
      have hblank := Value.isBlank_of_isSpace (hspace d (List.mem_of_mem_head? hhead))
      cases hd.symm.trans hblank
  | cons c h => exact hhead

/-- A text starts with the mark of an exponent. -/
def StartsExponent (cs : List Char) : Prop :=
  ∃ c rest, cs = c :: rest ∧ (c = 'e' ∨ c = 'E')

theorem isBlank_of_mark (h : c = 'e' ∨ c = 'E') : isBlank c = false := by
  rcases h with rfl | rfl <;> rfl

section Tails

variable (negative : Bool) (whole : List Nat)

theorem readNumberTail_exponent (cs : List Char) (hmark : c = 'e' ∨ c = 'E') :
    ∃ hle : ∀ number : Parsed Number cs, number.rest.length ≤ (c :: cs).length,
      readNumberTail negative whole (c :: cs) = (do
        let number ← readExponent negative (accumulate 0 whole).1 (accumulate 0 whole).2.length cs
        return (number.value, ⟨number.rest, hle number⟩)) := by
  rcases hmark with rfl | rfl <;> exact ⟨_, rfl⟩

theorem readNumberTail_whole (hdot : cs.head? ≠ some '.') (hmark : ¬ StartsExponent cs) :
    readNumberTail negative whole cs =
      readNumberTail.finish negative (accumulate 0 whole).1 (accumulate 0 whole).2 cs := by
  unfold readNumberTail
  dsimp only
  split
  · exact absurd rfl hdot
  · rw [if_neg fun hc => hmark ⟨_, _, rfl, hc⟩]
  · rfl

theorem readNumberTail_fraction (hdigits : leadingDigits cs ≠ [])
    (hmark : ¬ StartsExponent (afterDigits cs)) :
    ∃ hle, readNumberTail negative whole ('.' :: cs) = (do
      let read := accumulate (accumulate 0 whole).1 (leadingDigits cs)
      let start : Int := (accumulate 0 whole).2.length - ((leadingDigits cs).length - read.2.length : Nat)
      let number ← doubleOr (afterDigits cs) (decimalDouble? negative read.1 start)
      return (number, ⟨afterDigits cs, hle⟩)) := by
  refine ⟨Nat.le_succ_of_le (afterDigits_length_le cs), ?_⟩
  unfold readNumberTail
  simp only [if_neg hdigits]
  split
  · rename_i hcs
    rw [if_neg fun hc => hmark ⟨_, _, hcs, hc⟩]
    simp only [hcs]
  · rename_i hcs
    simp only [hcs]

theorem readNumberTail_fraction_exponent {rest : List Char} (hdigits : leadingDigits cs ≠ [])
    (hcs : afterDigits cs = c :: rest) (hmark : c = 'e' ∨ c = 'E') :
    ∃ hle : ∀ number : Parsed Number rest, number.rest.length ≤ ('.' :: cs).length,
      readNumberTail negative whole ('.' :: cs) = (do
        let read := accumulate (accumulate 0 whole).1 (leadingDigits cs)
        let start : Int :=
          (accumulate 0 whole).2.length - ((leadingDigits cs).length - read.2.length : Nat)
        let number ← readExponent negative read.1 start rest
        return (number.value, ⟨number.rest, hle number⟩)) := by
  have hle : ∀ number : Parsed Number rest, number.rest.length ≤ ('.' :: cs).length := by
    intro number
    have hafter := afterDigits_length_le cs
    have hrest := number.shorter
    rw [hcs, List.length_cons] at hafter
    rw [List.length_cons]
    omega
  refine ⟨hle, ?_⟩
  unfold readNumberTail
  simp only [if_neg hdigits]
  split
  · rename_i hcs'
    cases hcs'.symm.trans hcs
    rw [if_pos hmark]
  · rename_i hnil
    cases hnil.symm.trans hcs

end Tails

namespace EndsAlike

theorem startsExponent (h : EndsAlike cs ds) (hmark : StartsExponent ds) : StartsExponent cs := by
  obtain ⟨c, rest, rfl, hc⟩ := hmark
  obtain ⟨rest', rfl⟩ := List.head?_eq_some_iff.mp (h.head?_eq (isBlank_of_mark hc) rfl)
  exact ⟨c, rest', rfl, hc⟩

theorem finish {negative : Bool} {significand : Nat} {dropped : List Nat} (h : EndsAlike cs ds) :
    Except.Refines SameAhead (readNumberTail.finish negative significand dropped cs)
      (readNumberTail.finish negative significand dropped ds) := by
  unfold readNumberTail.finish
  split
  · split
    · exact .ok ⟨rfl, h⟩
    · exact .error _ _
  · exact doubleOr_refines.bind fun _ _ hnumber => .ok ⟨hnumber, h⟩

variable {negative : Bool} {whole : List Nat}

theorem readFraction (h : EndsAlike cs ds) :
    Except.Refines SameAhead (readNumberTail negative whole ('.' :: cs))
      (readNumberTail negative whole ('.' :: ds)) := by
  obtain ⟨hlead, hafter⟩ := h.digits
  by_cases hdigits : leadingDigits cs = []
  · unfold Json.readNumberTail
    simp only [if_pos hdigits]
    exact .error _ _
  · have hdigits' := hlead ▸ hdigits
    by_cases hmark : StartsExponent (afterDigits cs)
    · obtain ⟨c, rest, hcs, hc⟩ := hmark
      rw [hcs] at hafter
      obtain ⟨rest', hds, hrest⟩ := hafter.cons_inv (isBlank_of_mark hc)
      obtain ⟨hle, hread⟩ :=
        readNumberTail_fraction_exponent negative whole hdigits hcs hc
      obtain ⟨hle', hread'⟩ :=
        readNumberTail_fraction_exponent negative whole hdigits' hds hc
      rw [hread, hread', hlead]
      exact hrest.readExponent.bind fun _ _ hnumber => .ok hnumber
    · obtain ⟨hle, hcs⟩ := readNumberTail_fraction negative whole hdigits hmark
      obtain ⟨hle', hds⟩ := readNumberTail_fraction negative whole hdigits'
        fun hmark' => hmark (hafter.startsExponent hmark')
      rw [hcs, hds, hlead]
      exact doubleOr_refines.bind fun _ _ hnumber => .ok ⟨hnumber, hafter⟩

theorem readNumberTail (h : EndsAlike cs ds) :
    Except.Refines SameAhead (readNumberTail negative whole cs) (readNumberTail negative whole ds) := by
  by_cases hdot : cs.head? = some '.'
  · obtain ⟨rest, rfl⟩ := List.head?_eq_some_iff.mp hdot
    obtain ⟨rest', rfl, hrest⟩ := h.cons_inv rfl
    exact hrest.readFraction
  · by_cases hmark : StartsExponent cs
    · obtain ⟨c, rest, rfl, hc⟩ := hmark
      obtain ⟨rest', rfl, hrest⟩ := h.cons_inv (isBlank_of_mark hc)
      obtain ⟨hle, hread⟩ := readNumberTail_exponent negative whole rest hc
      obtain ⟨hle', hread'⟩ :=
        readNumberTail_exponent negative whole rest' hc
      rw [hread, hread']
      exact hrest.readExponent.bind fun _ _ hnumber => .ok hnumber
    · rw [readNumberTail_whole _ _ hdot hmark, readNumberTail_whole _ _ (fun hdot' => hdot (h.head?_eq rfl hdot'))
        fun hmark' => hmark (h.startsExponent hmark')]
      exact h.finish

end EndsAlike

theorem readNumber_zero (negative : Bool) (h : ∀ c ∈ cs.head?, isDigit c = false) :
    ∃ hlt : ∀ p : Number × { rest : List Char // rest.length ≤ cs.length },
      p.2.1.length < ('0' :: cs).length,
      readNumber negative ('0' :: cs) = (do
        let p ← readNumberTail negative [0] cs
        return ⟨p.1, p.2.1, hlt p⟩) := by
  refine ⟨fun p => Nat.lt_succ_of_le p.2.2, ?_⟩
  cases cs with
  | nil => rfl
  | cons c cs =>
      rw [readNumber.eq_2, if_neg (by simp [h c rfl])]

theorem readNumber_of_blank {negative : Bool} (h : ∀ c ∈ cs, isBlank c = true) :
    ∃ fault, readNumber negative cs = .error fault := by
  cases cs with
  | nil => exact ⟨_, rfl⟩
  | cons c cs =>
      have hc := h c (.head _)
      refine ⟨.next .badNumber (c :: cs), ?_⟩
      rw [readNumber.eq_4 _ _ _ (ne_of_isBlank hc rfl), isDigit_of_isBlank hc]
      rfl

namespace EndsAlike

theorem readNumber {negative : Bool} (h : EndsAlike cs ds) :
    ReadsAlike (readNumber negative cs) (readNumber negative ds) := by
  cases h with
  | ends hblank _ =>
      obtain ⟨fault, hfault⟩ := readNumber_of_blank hblank
      rw [hfault]
      exact .error _ _
  | @cons cs ds c h =>
      by_cases hzero : c = '0'
      · subst hzero
        by_cases hdigit : ∀ d ∈ cs.head?, isDigit d = false
        · have hdigit' : ∀ d ∈ ds.head?, isDigit d = false := by
            intro d hd
            cases hblank : isBlank d with
            | true => exact isDigit_of_isBlank hblank
            | false => exact hdigit d (h.head?_eq hblank hd)
          obtain ⟨hlt, hread⟩ := readNumber_zero negative hdigit
          obtain ⟨hlt', hread'⟩ := readNumber_zero negative hdigit'
          rw [hread, hread']
          exact h.readNumberTail.bind fun _ _ hnumber => .ok hnumber
        · cases cs with
          | nil => exact absurd nofun hdigit
          | cons d cs =>
              have hd : isDigit d = true := by simpa using hdigit
              rw [Json.readNumber.eq_2, if_pos hd]
              exact .error _ _
      · rw [Json.readNumber.eq_4 _ _ _ hzero, Json.readNumber.eq_4 _ _ _ hzero]
        split
        · have hlead := (EndsAlike.cons c h).digits.1
          rw [hlead]
          exact h.digits.2.readNumberTail.bind fun _ _ hnumber => .ok hnumber
        · exact .error _ _

end EndsAlike

end CommandForms.Json
