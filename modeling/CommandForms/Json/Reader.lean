import CommandForms.Json.Value
import CommandForms.Json.Fault
import CommandForms.Numeral.Hex
import CommandForms.Text.Rest

/-!
# Reading JSON texts

Readers of the pieces of a JSON text.  A reader takes the rest of the text and answers a value together
with a strictly shorter rest, which is what bounds every loop.  Readers of a given shape are built from
`foldElements` and `foldMembers`; `readValue` reads any value, its members in the order of the text.
-/

namespace CommandForms.Json

open CommandForms.Numeral (Double Ratio)

/-- A value read from the front of a text, and the shorter rest of it. -/
structure Parsed (α : Type) (cs : List Char) where
  value : α
  rest : List Char
  shorter : rest.length < cs.length

abbrev Reading (α : Type) (cs : List Char) := Except Fault (Parsed α cs)

namespace Parsed

variable {α β : Type} {cs ds : List Char}

def extend (p : Parsed α cs) (h : cs.length ≤ ds.length) : Parsed α ds :=
  ⟨p.value, p.rest, Nat.lt_of_lt_of_le p.shorter h⟩

def after (p : Parsed α cs) (q : Parsed β p.rest) : Parsed β cs :=
  ⟨q.value, q.rest, Nat.lt_trans q.shorter p.shorter⟩

def map (f : α → β) (p : Parsed α cs) : Parsed β cs :=
  ⟨f p.value, p.rest, p.shorter⟩

end Parsed

/-! ## Space and words -/

def isSpace (c : Char) : Bool :=
  c == ' ' || c == '\n' || c == '\t' || c == '\r'

def skipSpace (cs : List Char) : List Char :=
  cs.dropWhile isSpace

theorem skipSpace_length_le (cs : List Char) : (skipSpace cs).length ≤ cs.length :=
  (List.dropWhile_suffix isSpace).length_le

def afterSpace? (cs : List Char) : Option (Parsed Char cs) :=
  match hcs : skipSpace cs with
  | [] => none
  | c :: rest => some ⟨c, rest, by
      have := skipSpace_length_le cs
      rw [hcs, List.length_cons] at this
      exact this⟩

def readWord : (word cs : List Char) → Except Fault { rest : List Char // rest.length ≤ cs.length }
  | [], cs => .ok ⟨cs, Nat.le_refl _⟩
  | _ :: _, [] => .error (.here .endInValue [])
  | w :: word, c :: cs =>
      if c = w then
        match readWord word cs with
        | .ok ⟨rest, h⟩ => .ok ⟨rest, Nat.le_succ_of_le h⟩
        | .error fault => .error fault
      else .error (.next .expectedWord (c :: cs))

/-! ## Strings -/

/-- Reads the four hexadecimal digits of an escape; they are counted in bytes. -/
def readHex (cs : List Char) : Reading Nat cs :=
  match cs with
  | a :: b :: c :: d :: rest =>
      match Numeral.hexValue? [a, b, c, d] with
      | some n => .ok ⟨n, rest, by simp only [List.length_cons]; omega⟩
      | none => .error ⟨.badEscape, byteCount (a :: b :: c :: d :: rest) - 4⟩
  | cs =>
      if byteCount cs < 4 then .error (.here .endInString [])
      else .error ⟨.badEscape, byteCount cs - 4⟩

/-- The character that an escape after `\u` writes: one code point, or a leading surrogate followed by
the escape of a trailing one. -/
def readCodePoint (cs : List Char) : Reading Char cs := do
  let high ← readHex cs
  if 0xDC00 ≤ high.value ∧ high.value ≤ 0xDFFF then
    throw (.here .loneSurrogate high.rest)
  else if high.value < 0xD800 ∨ 0xDBFF < high.value then
    return high.map Char.ofNat
  else
    match hrest : high.rest with
    | [] => throw (.here .endInString [])
    | '\\' :: [] => throw (.here .endInString [])
    | '\\' :: 'u' :: rest =>
        let low ← readHex rest
        if low.value < 0xDC00 ∨ 0xDFFF < low.value then
          throw (.here .loneSurrogate low.rest)
        else
          let n := 0x10000 + 0x400 * (high.value - 0xD800) + (low.value - 0xDC00)
          return ⟨Char.ofNat n, low.rest, by
            have h := high.shorter
            have h' := low.shorter
            simp only [hrest, List.length_cons] at h
            omega⟩
    | '\\' :: c :: rest => throw (.next .endOfHexEscape (c :: rest))
    | c :: rest => throw (.next .endOfHexEscape (c :: rest))

/-- The character that an escape writes, behind its backslash. -/
def readEscape (cs : List Char) : Reading Char cs :=
  match cs with
  | [] => .error (.here .endInString [])
  | 'u' :: rest => do return (← readCodePoint rest).extend (Nat.le_succ _)
  | c :: rest =>
      let plain (d : Char) : Reading Char (c :: rest) := .ok ⟨d, rest, Nat.lt_succ_self _⟩
      if c = '"' ∨ c = '\\' ∨ c = '/' then plain c
      else if c = 'b' then plain '\x08'
      else if c = 'f' then plain '\x0c'
      else if c = 'n' then plain '\n'
      else if c = 'r' then plain '\r'
      else if c = 't' then plain '\t'
      else .error (.next .badEscape (c :: rest))

/-- Reads a string behind its opening quote; `front` holds its first characters, last one first. -/
def readStringTail (front cs : List Char) : Reading String cs :=
  match cs with
  | [] => .error (.here .endInString [])
  | '"' :: rest => .ok ⟨String.ofList front.reverse, rest, Nat.lt_succ_self _⟩
  | '\\' :: rest => do
      let c ← readEscape rest
      let s ← readStringTail (c.value :: front) c.rest
      return s.extend (by have := c.shorter; simp only [List.length_cons]; omega)
  | c :: rest =>
      if c.toNat < 0x20 then .error (.next .controlCharacter (c :: rest))
      else do return (← readStringTail (c :: front) rest).extend (Nat.le_succ _)
termination_by cs.length
decreasing_by
  · have := c.shorter
    simp only [List.length_cons]
    omega
  · simp only [List.length_cons]
    omega

/-! ## Numbers -/

def isDigit (c : Char) : Bool :=
  '0' ≤ c && c ≤ '9'

def leadingDigits (cs : List Char) : List Nat :=
  (cs.takeWhile isDigit).map fun c => c.toNat - '0'.toNat

def afterDigits (cs : List Char) : List Char :=
  cs.dropWhile isDigit

theorem afterDigits_length_le (cs : List Char) : (afterDigits cs).length ≤ cs.length :=
  (List.dropWhile_suffix isDigit).length_le

/-- Appends digits to a significand as long as it stays below `2 ^ 64`; answers the significand and the
digits left over. -/
def accumulate (significand : Nat) : List Nat → Nat × List Nat
  | [] => (significand, [])
  | d :: ds =>
      if 10 * significand + d < 18446744073709551616 then accumulate (10 * significand + d) ds
      else (significand, d :: ds)

/-- The double nearest to a power of ten up to `10 ^ 308`. -/
def powerOfTen? (k : Nat) : Option Double :=
  Double.ofRatio? false ⟨Nat.pow 10 k, 1⟩

/-- A double times a power of ten, rounded once after every step of at most 308 decimal places; nothing
when it overflows. -/
def scaleTen? (d : Double) (k : Int) : Option Double :=
  if k.natAbs ≤ 308 then do
    let power ← powerOfTen? k.natAbs
    if 0 ≤ k then d.mul? power else d.div? power
  else if d.isZero then some d
  else if h : 0 ≤ k then none
  else do scaleTen? (← d.div? (← powerOfTen? 308)) (k + 308)
termination_by (-k).toNat
decreasing_by omega

/-- The double `± significand · 10 ^ exponent`, its significand rounded before it is scaled. -/
def decimalDouble? (negative : Bool) (significand : Nat) (exponent : Int) : Option Double := do
  let d ← scaleTen? (← Double.ofRatio? false ⟨significand, 1⟩) exponent
  return if negative then d.neg else d

/-- An integer of 64 bits stays an integer; negative zero and longer integers become doubles. -/
def wholeNumber? (negative : Bool) (significand : Nat) : Option Number :=
  if negative then
    if h : 0 < significand ∧ significand ≤ 9223372036854775808 then
      some (.integer (-significand) ⟨by omega, by omega⟩)
    else (decimalDouble? true significand 0).map .double
  else if h : significand < 18446744073709551616 then some (.integer significand ⟨by omega, by omega⟩)
  else none

/-- The greatest exponent that is read as a number: `2 ^ 31 - 1`. -/
def maxExponent : Nat := 2147483647

/-- Reads the digits of an exponent as far as it stays in bounds; answers whether it did. -/
def readExponentDigits (n : Nat) : (cs : List Char) →
    { p : Nat × Bool × List Char // p.2.2.length ≤ cs.length }
  | [] => ⟨(n, true, []), Nat.le_refl _⟩
  | c :: cs =>
      if isDigit c then
        let n' := 10 * n + (c.toNat - '0'.toNat)
        if maxExponent < n' then ⟨(n, false, cs), Nat.le_succ _⟩
        else
          let ⟨p, h⟩ := readExponentDigits n' cs
          ⟨p, Nat.le_succ_of_le h⟩
      else ⟨(n, true, c :: cs), Nat.le_refl _⟩

/-- A number whose value does not fit a double is refused at the rest of the text. -/
def doubleOr (rest : List Char) (d? : Option Double) : Except Fault Number :=
  match d? with
  | some d => .ok (.double d)
  | none => .error (.here .numberOutOfRange rest)

/-- Reads an exponent behind its mark, and with it the whole number. -/
def readExponent (negative : Bool) (significand : Nat) (start : Int) (cs : List Char) :
    Reading Number cs :=
  let (down, digits) : Bool × { rest : List Char // rest.length ≤ cs.length } :=
    match cs with
    | '-' :: rest => (true, ⟨rest, Nat.le_succ _⟩)
    | '+' :: rest => (false, ⟨rest, Nat.le_succ _⟩)
    | rest => (false, ⟨rest, Nat.le_refl _⟩)
  match hd : digits.val with
  | [] => .error (.here .endInValue [])
  | c :: rest =>
      if isDigit c then
        let ⟨(n, inBounds, rest'), h⟩ := readExponentDigits (c.toNat - '0'.toNat) rest
        have hshort : rest'.length < cs.length := by
          have hlen := digits.property
          rw [hd, List.length_cons] at hlen
          simp only at h
          omega
        if inBounds then do
          let number ← doubleOr rest'
            (decimalDouble? negative significand (if down then start - n else start + n))
          return ⟨number, rest', hshort⟩
        else if significand ≠ 0 ∧ !down then .error (.here .numberOutOfRange rest')
        else
          let zero := if negative then Double.zero.neg else Double.zero
          .ok ⟨.double zero, afterDigits rest', Nat.lt_of_le_of_lt (afterDigits_length_le _) hshort⟩
      else .error (.next .badNumber (c :: rest))

/-- Reads what follows the whole part of a number: a fraction, an exponent, both or neither. -/
def readNumberTail (negative : Bool) (whole : List Nat) (cs : List Char) :
    Except Fault (Number × { rest : List Char // rest.length ≤ cs.length }) :=
  let (significand, dropped) := accumulate 0 whole
  match cs with
  | '.' :: rest => do
      let (significand', dropped') := accumulate significand (leadingDigits rest)
      let taken := (leadingDigits rest).length - dropped'.length
      let start : Int := dropped.length - taken
      have hafter := afterDigits_length_le rest
      if leadingDigits rest = [] then
        throw (if rest.isEmpty then .here .endInValue [] else .next .badNumber rest)
      else
        match hrest : afterDigits rest with
        | c :: exponent =>
            if c = 'e' ∨ c = 'E' then
              let number ← readExponent negative significand' start exponent
              return (number.value, ⟨number.rest, by
                have := number.shorter
                rw [hrest, List.length_cons] at hafter
                rw [List.length_cons]
                omega⟩)
            else
              let number ← doubleOr (c :: exponent) (decimalDouble? negative significand' start)
              return (number, ⟨c :: exponent, by rw [← hrest, List.length_cons]; omega⟩)
        | [] =>
            let number ← doubleOr [] (decimalDouble? negative significand' start)
            return (number, ⟨[], Nat.zero_le _⟩)
  | c :: rest =>
      if c = 'e' ∨ c = 'E' then do
        let number ← readExponent negative significand dropped.length rest
        return (number.value, ⟨number.rest, by
          have := number.shorter
          rw [List.length_cons]
          omega⟩)
      else finish significand dropped (c :: rest)
  | [] => finish significand dropped []
where
  /-- A number without a fraction or an exponent. -/
  finish (significand : Nat) (dropped : List Nat) (cs : List Char) :
      Except Fault (Number × { rest : List Char // rest.length ≤ cs.length }) :=
    if dropped.isEmpty then
      match wholeNumber? negative significand with
      | some number => .ok (number, ⟨cs, Nat.le_refl _⟩)
      | none => .error (.here .numberOutOfRange cs)
    else do
      let number ← doubleOr cs (decimalDouble? negative significand dropped.length)
      return (number, ⟨cs, Nat.le_refl _⟩)

def readNumber (negative : Bool) (cs : List Char) : Reading Number cs :=
  match cs with
  | [] => .error (.here .endInValue [])
  | '0' :: rest => do
      match rest with
      | c :: _ => if isDigit c then throw (.next .badNumber rest)
      | [] => pure ()
      let (number, ⟨rest', h⟩) ← readNumberTail negative [0] rest
      return ⟨number, rest', Nat.lt_succ_of_le h⟩
  | c :: rest =>
      if isDigit c then do
        let (number, ⟨rest', h⟩) ← readNumberTail negative (leadingDigits (c :: rest))
          (afterDigits rest)
        return ⟨number, rest',
          Nat.lt_succ_of_le (Nat.le_trans h (afterDigits_length_le rest))⟩
      else .error (.next .badNumber (c :: rest))

/-! ## Lists and objects -/

/-- What comes next inside a list or an object: its end, or an item that starts in front of a rest of
the text. -/
inductive Next (α : Type) (cs : List Char)
  | close (rest : List Char) (shorter : rest.length < cs.length)
  | item (value : α) (rest : List Char) (le : rest.length ≤ cs.length)

def nextElement (first : Bool) (cs : List Char) : Except Fault (Next Unit cs) :=
  have hskip := skipSpace_length_le cs
  match hcs : skipSpace cs with
  | [] => .error (.here .endInList [])
  | c :: rest =>
      have hlt : rest.length < cs.length := by rw [hcs, List.length_cons] at hskip; omega
      if c = ']' then .ok (.close rest hlt)
      else if first then .ok (.item () (c :: rest) (by rw [← hcs]; exact hskip))
      else if c = ',' then
        match hrest : skipSpace rest with
        | [] => .error (.here .endInValue [])
        | d :: rest' =>
            if d = ']' then .error (.next .trailingComma (d :: rest'))
            else .ok (.item () (d :: rest') (by
              have := skipSpace_length_le rest
              rw [← hrest]
              omega))
      else .error (.next .expectedListEnd (c :: rest))

/-- Reads the elements of a list behind its opening bracket, and the closing one. -/
def foldElements {σ : Type} (first : Bool) (state : σ) (cs : List Char)
    (step : σ → (ds : List Char) → ds.length ≤ cs.length → Reading σ ds) : Reading σ cs := do
  match ← nextElement first cs with
  | .close rest h => return ⟨state, rest, h⟩
  | .item () ds h =>
      let read ← step state ds h
      let result ← foldElements false read.value read.rest fun s es hes =>
        step s es (by have := read.shorter; omega)
      return result.extend (by have := read.shorter; omega)
termination_by cs.length
decreasing_by
  have := read.shorter
  omega

def nextMember (first : Bool) (cs : List Char) : Except Fault (Next String cs) := do
  have hskip := skipSpace_length_le cs
  match hcs : skipSpace cs with
  | [] => throw (.here .endInObject [])
  | c :: rest =>
      have hlt : rest.length < cs.length := by rw [hcs, List.length_cons] at hskip; omega
      if c = '\x7d' then return .close rest hlt
      else if first then
        if c = '"' then
          let key ← readStringTail [] rest
          return .item key.value key.rest (by have := key.shorter; omega)
        else throw (.next .keyNotString (c :: rest))
      else if c = ',' then
        match hrest : skipSpace rest with
        | [] => throw (.here .endInValue [])
        | d :: rest' =>
            if d = '"' then
              let key ← readStringTail [] rest'
              return .item key.value key.rest (by
                have := key.shorter
                have hskip' := skipSpace_length_le rest
                rw [hrest, List.length_cons] at hskip'
                omega)
            else if d = '\x7d' then throw (.next .trailingComma (d :: rest'))
            else throw (.next .keyNotString (d :: rest'))
      else throw (.next .expectedObjectEnd (c :: rest))

def readColon (cs : List Char) : Except Fault { rest : List Char // rest.length ≤ cs.length } :=
  have hskip := skipSpace_length_le cs
  match hcs : skipSpace cs with
  | [] => .error (.here .endInObject [])
  | c :: rest =>
      if c = ':' then .ok ⟨rest, by rw [hcs, List.length_cons] at hskip; omega⟩
      else .error (.next .expectedColon (c :: rest))

/-- Reads the members of an object behind its opening brace, and the closing one.  A step is given the
key, and reads the colon and the value. -/
def foldMembers {σ : Type} (first : Bool) (state : σ) (cs : List Char)
    (step : σ → String → (ds : List Char) → ds.length ≤ cs.length → Reading σ ds) :
    Reading σ cs := do
  match ← nextMember first cs with
  | .close rest h => return ⟨state, rest, h⟩
  | .item key ds h =>
      let read ← step state key ds h
      let result ← foldMembers false read.value read.rest fun s k es hes =>
        step s k es (by have := read.shorter; omega)
      return result.extend (by have := read.shorter; omega)
termination_by cs.length
decreasing_by
  have := read.shorter
  omega

/-! ## Values -/

/-- Reads any value.  Fewer than `depth` lists and objects may be open inside each other. -/
def readValue (depth : Nat) (cs : List Char) : Reading Value cs := do
  have hskip := skipSpace_length_le cs
  match hcs : skipSpace cs with
  | [] => throw (.here .endInValue [])
  | c :: rest =>
      have hlt : rest.length < cs.length := by rw [hcs, List.length_cons] at hskip; omega
      if c = 'n' then
        let ⟨rest', h⟩ ← readWord ['u', 'l', 'l'] rest
        return ⟨.null, rest', by omega⟩
      else if c = 't' then
        let ⟨rest', h⟩ ← readWord ['r', 'u', 'e'] rest
        return ⟨.bool true, rest', by omega⟩
      else if c = 'f' then
        let ⟨rest', h⟩ ← readWord ['a', 'l', 's', 'e'] rest
        return ⟨.bool false, rest', by omega⟩
      else if c = '"' then
        let s ← readStringTail [] rest
        return (s.map Value.string).extend (by omega)
      else if c = '-' then
        let n ← readNumber true rest
        return (n.map Value.number).extend (by omega)
      else if isDigit c then
        let n ← readNumber false (c :: rest)
        return (n.map Value.number).extend (by rw [← hcs]; exact hskip)
      else if c = '[' then
        match depth with
        | d + 2 =>
            let items ← foldElements true [] rest fun items ds hds => do
              let item ← readValue (d + 1) ds
              return item.map (· :: items)
            return (items.map fun items => Value.array items.reverse).extend (by omega)
        | _ => throw (.next .tooDeep (c :: rest))
      else if c = '\x7b' then
        match depth with
        | d + 2 =>
            let members ← foldMembers true [] rest fun members key ds hds => do
              let ⟨es, hes⟩ ← readColon ds
              let value ← readValue (d + 1) es
              return (value.map fun value => (key, value) :: members).extend hes
            return (members.map fun members => Value.object members.reverse).extend (by omega)
        | _ => throw (.next .tooDeep (c :: rest))
      else throw (.next .expectedValue (c :: rest))
termination_by cs.length
decreasing_by all_goals omega

/-- How deep lists and objects may be nested, and one more. -/
def depthLimit : Nat := 128

/-- Reads a whole text with a reader; nothing but space may follow. -/
def readAll {α : Type} (read : (cs : List Char) → Reading α cs) (text : String) :
    Except ReadError α :=
  match read text.toList with
  | .error fault => .error (.ofFault text.toList fault)
  | .ok parsed =>
      match skipSpace parsed.rest with
      | [] => .ok parsed.value
      | rest => .error (.ofFault text.toList (.next .trailingCharacters rest))

/-- Reads a text as one value, the members of its objects as they stand. -/
def readRaw (text : String) : Except ReadError Value :=
  readAll (readValue depthLimit) text

def Value.parse (text : String) : Except ReadError Value :=
  (readRaw text).map Value.normalize

end CommandForms.Json
