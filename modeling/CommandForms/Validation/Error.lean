import CommandForms.Numeral.Integer

/-!
# Validation errors

What is wrong with a value, and the path from the validated value to the place where it is wrong.
-/

namespace CommandForms.Validation

open CommandForms.Numeral (integerText)

/-- One step of a path: into the member of an object, or into an element of a list. -/
inductive Step
  | key (name : String)
  | index (n : Nat)
deriving Repr, DecidableEq

def Step.text : Step → String
  | .key name => "[" ++ name ++ "]"
  | .index n => "[" ++ integerText n ++ "]"

inductive Violation
  | undefined
  | notAString
  | notInAutocomplete
  | notInAutocompleteAt (index : Nat)
  | notAnArray
  | notASafeInteger
  | belowMin
  | aboveMax
  | notABoolean
  | notAnAspectMap
  | unknownAspect (name : String)
  | aspectNotInteger (name : String)
  | aspectBelowZero (name : String)
  | notAnObject
  | missingKey (key : String)
  | tooFew (least : Nat)
  | tooMany (most : Nat)
deriving Repr, DecidableEq

def Violation.message : Violation → String
  | .undefined => "is undefined"
  | .notAString => "is not a string"
  | .notInAutocomplete => "is not included in autocomplete list"
  | .notInAutocompleteAt index =>
      "is not included in autocomplete list at index " ++ integerText index
  | .notAnArray => "is not an array"
  | .notASafeInteger => "is not a safe integer"
  | .belowMin => "is below the min value allowed"
  | .aboveMax => "is above the max value allowed"
  | .notABoolean => "is not a boolean"
  | .notAnAspectMap => "is not an aspect map"
  | .unknownAspect name => name ++ " is not a valid aspect"
  | .aspectNotInteger name => name ++ " is not a safe integer"
  | .aspectBelowZero name => name ++ " is below zero"
  | .notAnObject => "is not an object"
  | .missingKey key => "is undefined for required key " ++ key
  | .tooFew least => "has fewer than " ++ integerText least ++ " entries"
  | .tooMany most => "has more than " ++ integerText most ++ " entries"

structure Error where
  path : List Step
  violation : Violation
deriving Repr, DecidableEq

/-- The text of an error: the path, unless it is empty, and the violation. -/
def Error.message (e : Error) : String :=
  let path := if e.path.isEmpty then "" else String.join (e.path.map Step.text) ++ " "
  path ++ e.violation.message

abbrev Outcome := Except Error Unit

def refuse (violation : Violation) : Outcome :=
  .error ⟨[], violation⟩

/-- The outcome at a step, seen from the value that the step leaves. -/
def within (step : Step) : Outcome → Outcome
  | .ok () => .ok ()
  | .error e => .error { e with path := step :: e.path }

end CommandForms.Validation
