import CommandForms.Json.Shaped
import CommandForms.Json.Skip

/-!
# Reading records

A record is written as an object of its fields, in any order and among other members, which are passed
over, or as a list of the values of its fields in the order of their declaration.
-/

namespace CommandForms.Json

open CommandForms.Numeral (integerText)

def readListEnd (cs : List Char) : Passed cs :=
  have hskip := skipSpace_length_le cs
  match hcs : skipSpace cs with
  | [] => .error (.here .endInList [])
  | c :: rest =>
      if c = ']' then .ok ⟨rest, by rw [hcs, List.length_cons] at hskip; exact hskip⟩
      else if c = ',' then
        match skipSpace rest with
        | ']' :: rest' => .error (.next .trailingComma (']' :: rest'))
        | rest' => .error (.next .trailingCharacters rest')
      else .error (.next .trailingCharacters (c :: rest))

/-- Reads the elements of a list as values of the given fields, in order, and the closing bracket. -/
def readInOrder {σ : Type} (set : σ → String → (ds : List Char) → Reading σ ds) (first : Bool)
    (state : σ) : (fields : List String) → (cs : List Char) → Reading σ cs
  | [], cs => do
      let ⟨rest, h⟩ ← readListEnd cs
      return ⟨state, rest, h⟩
  | field :: fields, cs => do
      match ← nextElement first cs with
      | .close rest h => return ⟨state, rest, h⟩
      | .item () ds h =>
          let read ← set state field ds
          let result ← readInOrder set false read.value fields read.rest
          return result.extend (by have := read.shorter; omega)

/-- Reads the members of an object as values of the given fields, each of which may be given once, and the
closing brace. -/
def readByName {σ : Type} (fields : List String)
    (set : σ → String → (ds : List Char) → Reading σ ds) (state : σ) (cs : List Char) :
    Reading σ cs := do
  let read ← foldMembers true (([] : List String), state) cs fun (seen, state) key ds _ => do
    if fields.contains key then
      if seen.contains key then breakOff (.duplicateField key) ds
      else
        let ⟨rest, h⟩ ← readColon ds
        let value ← set state key rest
        return (value.map fun state => (key :: seen, state)).extend h
    else
      let ⟨rest, h⟩ ← readColon ds
      let ⟨rest', h'⟩ ← skipValue rest
      return ⟨(seen, state), rest', Nat.lt_of_lt_of_le h' h⟩
  return read.map (·.2)

/-- Reads a record.  `set` reads the value of a declared field, and `finish` answers the record or the
name of a field that has not been given. -/
def readRecord {σ α : Type} (expected : String) (fields : List String) (start : σ)
    (set : Nat → σ → String → (ds : List Char) → Reading σ ds) (finish : σ → Except String α)
    (depth : Nat) (cs : List Char) : Reading α cs := do
  let opener ← readStart expected (fun c => c = '[' ∨ c = '\x7b') cs
  let inner ← enter depth opener.value opener.rest
  if opener.value = '[' then
    let read ← readInOrder (set inner) true start fields opener.rest
    let value ← behind read.rest ((finish read.value).mapError fun missing =>
      .wrongLength (fields.idxOf missing)
        (expected ++ " with " ++ integerText fields.length ++ " elements"))
    return opener.after (read.map fun _ => value)
  else
    let read ← readByName fields (set inner) start opener.rest
    let value ← behind read.rest ((finish read.value).mapError .missingField)
    return opener.after (read.map fun _ => value)

end CommandForms.Json
