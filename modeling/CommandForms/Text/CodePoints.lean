/-!
# Sets of code points

A set of code points is kept as spans.  The operations answer spans that ascend and do not touch, and
`contains_union`, `contains_compl`, `contains_inter` and `contains_diff` say what they mean for
membership.  Long sets are written as turns: by turns the number of code points outside the set and the
number of code points in it.
-/

namespace CommandForms.Text

/-- A set of code points: those of inclusive spans. -/
structure CodePoints where
  spans : List (Nat × Nat)
deriving Repr, DecidableEq

namespace CodePoints

def last : Nat := 0x10FFFF

def inSpan (n : Nat) (span : Nat × Nat) : Bool :=
  span.1 ≤ n && n ≤ span.2

def holds (s : CodePoints) (n : Nat) : Bool :=
  s.spans.any (inSpan n)

def contains (s : CodePoints) (c : Char) : Bool :=
  s.holds c.toNat

def empty : CodePoints := ⟨[]⟩

def all : CodePoints := ⟨[(0, last)]⟩

/-- The code points from `first` to `last`. -/
def range (first last : Nat) : CodePoints := ⟨[(first, last)]⟩

def single (n : Nat) : CodePoints := range n n

/-! ## Spans in order -/

def startsBy (a b : Nat × Nat) : Bool :=
  decide (a.1 ≤ b.1)

/-- Joins the span from `first` to `last` and ascending spans behind it where they touch. -/
def joinFrom (first last : Nat) : List (Nat × Nat) → List (Nat × Nat)
  | [] => [(first, last)]
  | (a, b) :: rest =>
      if a ≤ last + 1 then joinFrom first (max last b) rest
      else (first, last) :: joinFrom a b rest

/-- Joins ascending spans where they touch. -/
def join : List (Nat × Nat) → List (Nat × Nat)
  | [] => []
  | (a, b) :: rest => joinFrom a b rest

def ofSpans (spans : List (Nat × Nat)) : CodePoints :=
  ⟨join (spans.mergeSort startsBy)⟩

/-- The gaps that ascending spans leave from a code point on. -/
def gapsFrom (start : Nat) : List (Nat × Nat) → List (Nat × Nat)
  | [] => if start ≤ last then [(start, last)] else []
  | (a, b) :: rest =>
      if start < a then (start, a - 1) :: gapsFrom (max start (b + 1)) rest
      else gapsFrom (max start (b + 1)) rest

/-! ## Operations -/

def union (a b : CodePoints) : CodePoints :=
  ofSpans (a.spans ++ b.spans)

def unionOf (sets : List CodePoints) : CodePoints :=
  ofSpans (sets.flatMap spans)

def compl (s : CodePoints) : CodePoints :=
  ⟨gapsFrom 0 (s.spans.mergeSort startsBy)⟩

def inter (a b : CodePoints) : CodePoints :=
  (a.compl.union b.compl).compl

def diff (a b : CodePoints) : CodePoints :=
  a.inter b.compl

def symmDiff (a b : CodePoints) : CodePoints :=
  (a.diff b).union (b.diff a)

def isSingle (s : CodePoints) : Bool :=
  match s.spans with
  | [(first, last)] => first == last
  | _ => false

/-- The set without its code points above the seven-bit range is the set itself. -/
def isAscii (s : CodePoints) : Bool :=
  s.spans.all fun span => span.2 < 0x80

/-! ## Sets in writing -/

/-- Reads decimal numbers with spaces between them; `n` is the number whose digits were read last. -/
def readNumbers (n : Nat) : List Char → List Nat
  | [] => [n]
  | ' ' :: cs => n :: readNumbers 0 cs
  | c :: cs => readNumbers (10 * n + (c.toNat - '0'.toNat)) cs

def spansOfTurns (start : Nat) : List Nat → List (Nat × Nat)
  | skipped :: taken :: turns =>
      (start + skipped, start + skipped + taken - 1) ::
        spansOfTurns (start + skipped + taken) turns
  | _ => []

def ofTurns (text : String) : CodePoints :=
  ⟨spansOfTurns 0 (readNumbers 0 text.toList)⟩

def ofList (ns : List Nat) : CodePoints :=
  ofSpans (ns.map fun n => (n, n))

/-! ## Membership -/

theorem pairwise_mergeSort_startsBy (spans : List (Nat × Nat)) :
    (spans.mergeSort startsBy).Pairwise fun a b => a.1 ≤ b.1 := by
  have h := @List.pairwise_mergeSort _ startsBy
    (fun a b c hab hbc => by simp only [startsBy, decide_eq_true_eq] at *; omega)
    (fun a b => by simp only [startsBy, Bool.or_eq_true, decide_eq_true_eq]; omega) spans
  exact h.imp fun hab => by simpa [startsBy] using hab

theorem any_mergeSort_startsBy (spans : List (Nat × Nat)) (p : Nat × Nat → Bool) :
    (spans.mergeSort startsBy).any p = spans.any p := by
  rw [Bool.eq_iff_iff, List.any_eq_true, List.any_eq_true]
  simp only [List.mem_mergeSort]

theorem any_joinFrom {n first last : Nat} {spans : List (Nat × Nat)}
    (hfirst : ∀ span ∈ spans, first ≤ span.1) (hspans : spans.Pairwise fun a b => a.1 ≤ b.1) :
    (joinFrom first last spans).any (inSpan n) = (inSpan n (first, last) || spans.any (inSpan n)) := by
  induction spans generalizing first last with
  | nil => simp [joinFrom]
  | cons span rest ih =>
      obtain ⟨a, b⟩ := span
      have ha : first ≤ a := hfirst (a, b) (by simp)
      rw [List.pairwise_cons] at hspans
      simp only [joinFrom]
      split
      · rename_i htouch
        rw [ih (fun s hs => hfirst s (List.mem_cons_of_mem _ hs)) hspans.2, List.any_cons, ← Bool.or_assoc]
        congr 1
        rw [Bool.eq_iff_iff]
        simp only [inSpan, Bool.and_eq_true, Bool.or_eq_true, decide_eq_true_eq]
        omega
      · rw [List.any_cons, ih (fun s hs => hspans.1 s hs) hspans.2, List.any_cons]

theorem holds_ofSpans (spans : List (Nat × Nat)) (n : Nat) :
    (ofSpans spans).holds n = spans.any (inSpan n) := by
  have hsorted := pairwise_mergeSort_startsBy spans
  rw [← any_mergeSort_startsBy spans, holds, ofSpans]
  cases hl : spans.mergeSort startsBy with
  | nil => rfl
  | cons span rest =>
      rw [hl, List.pairwise_cons] at hsorted
      simpa [join] using any_joinFrom (fun s hs => hsorted.1 s hs) hsorted.2

@[simp]
theorem holds_union (a b : CodePoints) (n : Nat) :
    (a.union b).holds n = (a.holds n || b.holds n) := by
  rw [union, holds_ofSpans, List.any_append]
  rfl

theorem any_gapsFrom {n start : Nat} {spans : List (Nat × Nat)} (hn : n ≤ last)
    (hspans : spans.Pairwise fun a b => a.1 ≤ b.1) :
    (gapsFrom start spans).any (inSpan n) = (decide (start ≤ n) && !spans.any (inSpan n)) := by
  induction spans generalizing start with
  | nil =>
      simp only [gapsFrom]
      split
      · simp [inSpan, hn]
      · have : ¬ start ≤ n := by omega
        simp [this]
  | cons span rest ih =>
      obtain ⟨a, b⟩ := span
      rw [List.pairwise_cons] at hspans
      have hrest : n < a → rest.any (inSpan n) = false := by
        intro hna
        rw [List.any_eq_false]
        intro s hs
        have := hspans.1 s hs
        simp only [inSpan, Bool.and_eq_true, decide_eq_true_eq]
        omega
      simp only [gapsFrom]
      split
      · rename_i hstart
        rw [List.any_cons, ih hspans.2, List.any_cons]
        cases hr : rest.any (inSpan n) with
        | true =>
            have : ¬ n < a := fun hna => by simp [hrest hna] at hr
            simp [inSpan]
            omega
        | false =>
            rw [Bool.eq_iff_iff]
            simp only [inSpan, Bool.and_eq_true, Bool.or_eq_true, decide_eq_true_eq, Bool.not_eq_true',
              Bool.or_false, Bool.not_false, and_true, Bool.and_eq_false_iff, decide_eq_false_iff_not]
            omega
      · rename_i hstart
        rw [ih hspans.2, List.any_cons]
        cases hr : rest.any (inSpan n) with
        | true => simp
        | false =>
            rw [Bool.eq_iff_iff]
            simp only [inSpan, Bool.and_eq_true, decide_eq_true_eq, Bool.not_eq_true', Bool.or_false,
              Bool.not_false, and_true, Bool.and_eq_false_iff, decide_eq_false_iff_not]
            omega

theorem holds_compl (s : CodePoints) {n : Nat} (hn : n ≤ last) :
    s.compl.holds n = !s.holds n := by
  rw [compl, holds, any_gapsFrom hn (pairwise_mergeSort_startsBy s.spans), any_mergeSort_startsBy, holds]
  simp

theorem toNat_le_last (c : Char) : c.toNat ≤ last := by
  have h := c.valid
  simp only [UInt32.isValidChar, Nat.isValidChar] at h
  show c.val.toNat ≤ 0x10FFFF
  omega

@[simp]
theorem contains_union (a b : CodePoints) (c : Char) :
    (a.union b).contains c = (a.contains c || b.contains c) :=
  holds_union a b c.toNat

@[simp]
theorem contains_compl (s : CodePoints) (c : Char) : s.compl.contains c = !s.contains c :=
  holds_compl s (toNat_le_last c)

@[simp]
theorem contains_inter (a b : CodePoints) (c : Char) :
    (a.inter b).contains c = (a.contains c && b.contains c) := by
  simp [inter]

@[simp]
theorem contains_diff (a b : CodePoints) (c : Char) :
    (a.diff b).contains c = (a.contains c && !b.contains c) := by
  simp [diff]

@[simp]
theorem contains_single (n : Nat) (c : Char) : (single n).contains c = (c.toNat == n) := by
  simp only [contains, holds, single, range, inSpan, List.any_cons, List.any_nil, Bool.or_false]
  rw [Bool.eq_iff_iff, Bool.and_eq_true, decide_eq_true_eq, decide_eq_true_eq, beq_iff_eq]
  omega

end CodePoints

end CommandForms.Text
