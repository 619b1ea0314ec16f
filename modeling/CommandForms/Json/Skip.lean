import CommandForms.Json.Reader

/-!
# Passing over JSON values

A value that nobody asked for is passed over.  Its brackets must match and its pieces must be well formed,
but it may be nested at any depth, its numbers may be of any size, and an escape in a string may write any
code unit.
-/

namespace CommandForms.Json

abbrev Passed (cs : List Char) := Except Fault { rest : List Char // rest.length < cs.length }

/-- Passes over the rest of a string, behind its opening quote. -/
def skipStringTail (cs : List Char) : Passed cs :=
  match cs with
  | [] => .error (.here .endInString [])
  | '"' :: rest => .ok ⟨rest, Nat.lt_succ_self _⟩
  | '\\' :: [] => .error (.here .endInString [])
  | '\\' :: 'u' :: rest => do
      let code ← readHex rest
      let ⟨rest', h⟩ ← skipStringTail code.rest
      return ⟨rest', by have := code.shorter; simp only [List.length_cons]; omega⟩
  | '\\' :: c :: rest =>
      if c = '"' ∨ c = '\\' ∨ c = '/' ∨ c = 'b' ∨ c = 'f' ∨ c = 'n' ∨ c = 'r' ∨ c = 't' then do
        let ⟨rest', h⟩ ← skipStringTail rest
        return ⟨rest', by simp only [List.length_cons]; omega⟩
      else .error (.next .badEscape (c :: rest))
  | c :: rest =>
      if c.toNat < 0x20 then .error (.here .controlCharacter (c :: rest))
      else do
        let ⟨rest', h⟩ ← skipStringTail rest
        return ⟨rest', Nat.lt_succ_of_lt h⟩
termination_by cs.length
decreasing_by
  · have := code.shorter
    simp only [List.length_cons]
    omega
  · simp only [List.length_cons]
    omega
  · simp only [List.length_cons]
    omega

/-- What follows the sign in front, when there is one. -/
def afterSign (cs : List Char) : { rest : List Char // rest.length ≤ cs.length } :=
  match cs with
  | '+' :: rest => ⟨rest, Text.length_le_cons '+' rest⟩
  | '-' :: rest => ⟨rest, Text.length_le_cons '-' rest⟩
  | rest => ⟨rest, Text.length_le_self rest⟩

/-- Passes over digits, at least one of them. -/
def skipDigits : (cs : List Char) → Passed cs
  | [] => .error (.here .badNumber [])
  | c :: rest =>
      if isDigit c then .ok ⟨afterDigits rest, Text.length_lt_cons_of_le (afterDigits_length_le rest)⟩
      else .error (.next .badNumber (c :: rest))

/-- Passes over an exponent, behind its mark. -/
def skipExponent (cs : List Char) : Passed cs := do
  let digits := afterSign cs
  let ⟨rest, h⟩ ← skipDigits digits
  return ⟨rest, Nat.lt_of_lt_of_le h digits.property⟩

/-- Passes over an exponent when one follows. -/
def skipExponent? (cs : List Char) : Except Fault { rest : List Char // rest.length ≤ cs.length } :=
  match cs with
  | c :: rest =>
      if c = 'e' ∨ c = 'E' then do
        let ⟨rest', h⟩ ← skipExponent rest
        return ⟨rest', Nat.le_succ_of_le (Nat.le_of_lt h)⟩
      else .ok ⟨c :: rest, Nat.le_refl _⟩
  | [] => .ok ⟨[], Nat.le_refl _⟩

/-- Passes over a fraction and an exponent when they follow. -/
def skipNumberTail (cs : List Char) : Except Fault { rest : List Char // rest.length ≤ cs.length } :=
  match cs with
  | '.' :: rest =>
      if leadingDigits rest = [] then .error (.next .badNumber rest)
      else do
        let ⟨rest', h⟩ ← skipExponent? (afterDigits rest)
        return ⟨rest', Nat.le_succ_of_le (Nat.le_trans h (afterDigits_length_le rest))⟩
  | cs => skipExponent? cs

theorem length_lt_cons_of_afterDigits {c : Char} {cs rest : List Char}
    (h : rest.length ≤ (afterDigits cs).length) : rest.length < (c :: cs).length :=
  Nat.lt_succ_of_le (Nat.le_trans h (afterDigits_length_le cs))

/-- Passes over a number, behind its sign. -/
def skipNumber (cs : List Char) : Passed cs :=
  match cs with
  | [] => .error (.here .badNumber [])
  | c :: rest =>
      if c = '0' then
        if (rest.head?.map isDigit).getD false then .error (.next .badNumber rest)
        else do
          let ⟨rest', h⟩ ← skipNumberTail rest
          return ⟨rest', Text.length_lt_cons_of_le h⟩
      else if isDigit c then do
        let ⟨rest', h⟩ ← skipNumberTail (afterDigits rest)
        return ⟨rest', length_lt_cons_of_afterDigits h⟩
      else .error (.next .badNumber (c :: rest))

mutual

def skipValue (cs : List Char) : Passed cs := do
  match afterSpace? cs with
  | none => throw (.here .endInValue [])
  | some ⟨c, rest, hlt⟩ =>
      let word (letters : List Char) : Passed cs := do
        let ⟨rest', h⟩ ← readWord letters rest
        return ⟨rest', Nat.lt_of_le_of_lt h hlt⟩
      if c = 'n' then word ['u', 'l', 'l']
      else if c = 't' then word ['r', 'u', 'e']
      else if c = 'f' then word ['a', 'l', 's', 'e']
      else if c = '"' then
        let ⟨rest', h⟩ ← skipStringTail rest
        return ⟨rest', Nat.lt_trans h hlt⟩
      else if c = '-' then
        let ⟨rest', h⟩ ← skipNumber rest
        return ⟨rest', Nat.lt_trans h hlt⟩
      else if isDigit c then
        let ⟨rest', h⟩ ← skipNumber (c :: rest)
        return ⟨rest', by rw [List.length_cons] at h; omega⟩
      else if c = '[' then
        match afterSpace? rest with
        | none => throw (.here .endInList [])
        | some ⟨d, rest', h⟩ =>
            if d = ']' then return ⟨rest', Nat.lt_trans h hlt⟩
            else
              let ⟨rest', h⟩ ← skipElements rest
              return ⟨rest', Nat.lt_trans h hlt⟩
      else if c = '\x7b' then
        match afterSpace? rest with
        | none => throw (.here .endInObject [])
        | some ⟨d, rest', h⟩ =>
            if d = '\x7d' then return ⟨rest', Nat.lt_trans h hlt⟩
            else
              let ⟨rest', h⟩ ← skipMembers rest
              return ⟨rest', Nat.lt_trans h hlt⟩
      else throw (.next .expectedValue (c :: rest))
termination_by (cs.length, 0)

def skipElements (cs : List Char) : Passed cs := do
  let ⟨rest, h⟩ ← skipValue cs
  match afterSpace? rest with
  | none => throw (.here .endInList [])
  | some ⟨c, rest', h'⟩ =>
      have hlt : rest'.length < cs.length := Nat.lt_trans h' h
      if c = ']' then return ⟨rest', hlt⟩
      else if c = ',' then
        let ⟨rest'', h''⟩ ← skipElements rest'
        return ⟨rest'', Nat.lt_trans h'' hlt⟩
      else throw (.next .expectedListEnd (c :: rest'))
termination_by (cs.length, 1)

def skipMembers (cs : List Char) : Passed cs := do
  match afterSpace? cs with
  | none => throw (.here .endInObject [])
  | some ⟨c, rest, h⟩ =>
      if c = '"' then
        let ⟨afterKey, h₁⟩ ← skipStringTail rest
        let ⟨afterColon, h₂⟩ ← readColon afterKey
        have hlt : afterColon.length < cs.length := by omega
        let ⟨afterValue, h₃⟩ ← skipValue afterColon
        match afterSpace? afterValue with
        | none => throw (.here .endInObject [])
        | some ⟨d, rest', h₄⟩ =>
            have hlt' : rest'.length < cs.length := by omega
            if d = '\x7d' then return ⟨rest', hlt'⟩
            else if d = ',' then
              let ⟨rest'', h₅⟩ ← skipMembers rest'
              return ⟨rest'', Nat.lt_trans h₅ hlt'⟩
            else throw (.next .expectedObjectEnd (d :: rest'))
      else throw (.next .keyNotString (c :: rest))
termination_by (cs.length, 1)

end

end CommandForms.Json
