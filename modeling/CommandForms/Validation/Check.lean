import CommandForms.Aspects
import CommandForms.Schema.Basic
import CommandForms.Validation.Error

/-!
# Validation

A value is checked against a schema together with its parts, in declaration order for the fields of an
object and in index order for lists.  The first violation is reported.
-/

namespace CommandForms.Validation

open CommandForms.Json (Value)

def checkCount (bounds : CountBounds) (count : Nat) : Outcome :=
  if bounds.min.any (count < ·.toNat) then refuse (.tooFew bounds.least)
  else if bounds.max.any (·.toNat < count) then refuse (.tooMany bounds.most)
  else .ok ()

def admits (strict : Bool) (autocomplete : List String) (text : String) : Bool :=
  !strict || autocomplete.contains text

def checkString (options : StringOptions) : Value → Outcome
  | .string s =>
      if admits options.strict options.autocomplete s then .ok () else refuse .notInAutocomplete
  | _ => refuse .notAString

/-- Checks the members of a set, the first of which has an index. -/
def checkMembers (options : StringSetOptions) (index : Nat) : List Value → Outcome
  | [] => .ok ()
  | .string s :: items =>
      if admits options.strict options.autocomplete s then checkMembers options (index + 1) items
      else refuse (.notInAutocompleteAt index)
  | _ :: _ => within (.index index) (refuse .notAString)

def checkStringSet (options : StringSetOptions) : Value → Outcome
  | .array items => do
      checkCount options.count items.length
      checkMembers options 0 items
  | _ => refuse .notAnArray

def checkInteger (options : IntegerOptions) (value : Value) : Outcome :=
  match value.safeInteger? with
  | none => refuse .notASafeInteger
  | some n =>
      if options.min.any (n < ·.toInt) then refuse .belowMin
      else if options.max.any (·.toInt < n) then refuse .aboveMax
      else .ok ()

def checkBoolean : Value → Outcome
  | .bool _ => .ok ()
  | _ => refuse .notABoolean

def checkAspects (aspects : AspectSet) : List (String × Value) → Outcome
  | [] => .ok ()
  | (name, count) :: counts =>
      if aspects.contains name then
        match count.safeInteger? with
        | none => refuse (.aspectNotInteger name)
        | some n => if n < 0 then refuse (.aspectBelowZero name) else checkAspects aspects counts
      else refuse (.unknownAspect name)

def checkAspectMap (aspects : AspectSet) (keys : CountBounds) : Value → Outcome
  | .object counts => do
      checkAspects aspects counts
      checkCount keys counts.length
  | _ => refuse .notAnAspectMap

/-- Checks the elements of a list, the first of which has an index. -/
def checkElements (check : Value → Outcome) (index : Nat) : List Value → Outcome
  | [] => .ok ()
  | item :: items => do
      within (.index index) (check item)
      checkElements check (index + 1) items

mutual

/-- Checks a value against a schema.  Null is the absence of a value. -/
def check (aspects : AspectSet) (s : Schema) (value : Value) : Outcome :=
  if value.isNull then
    if s.required then refuse .undefined else .ok ()
  else
    match s with
    | .string _ options => checkString options value
    | .stringSet _ options => checkStringSet options value
    | .integer _ options => checkInteger options value
    | .boolean .. => checkBoolean value
    | .aspectMap _ keys => checkAspectMap aspects keys value
    | .object _ fields =>
        match value with
        | .object members => checkFields aspects members fields
        | _ => refuse .notAnObject
    | .array _ element length =>
        match value with
        | .array items => do
            checkCount length items.length
            checkElements (check aspects element) 0 items
        | _ => refuse .notAnArray

def checkFields (aspects : AspectSet) (members : List (String × Value)) :
    List (String × Schema) → Outcome
  | [] => .ok ()
  | (key, schema) :: fields => do
      match Entries.find? key members with
      | none => if schema.required then refuse (.missingKey key)
      | some value => within (.key key) (check aspects schema value)
      checkFields aspects members fields

end

end CommandForms.Validation

namespace CommandForms

def validate (value : Json.Value) (s : Schema) (aspects : AspectSet) : Validation.Outcome :=
  Validation.check aspects s value

/-- The message of a validation; empty for a valid value. -/
def validationMessage (value : Json.Value) (s : Schema) (aspects : AspectSet) : String :=
  match validate value s aspects with
  | .ok () => ""
  | .error e => e.message

end CommandForms
