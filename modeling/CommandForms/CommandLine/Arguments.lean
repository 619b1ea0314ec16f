/-!
# Arguments

Arguments give values to named parameters, set switches, and may end in free words.  What a subcommand
takes is its grammar; reading follows the grammar from left to right and ends at the first argument that
does not fit.
-/

namespace CommandForms.CommandLine

inductive Parameter
  | catalog
  | command
  | field
  | input
  | config
deriving Repr, DecidableEq

namespace Parameter

def all : List Parameter := [catalog, command, field, input, config]

def name : Parameter → String
  | catalog => "catalog"
  | command => "command"
  | field => "field"
  | input => "input"
  | config => "config"

/-- Whether the value is a path, which is never empty. -/
def isPath : Parameter → Bool
  | catalog | config => true
  | command | field | input => false

end Parameter

/-- Why arguments ask for nothing that can be done. -/
inductive Misuse
  | noSubcommand
  | unknownSubcommand (name : String)
  | unexpected (argument : String)
  | noValue (parameter : Parameter)
  | emptyPath (parameter : Parameter)
  | repeated (name : String)
  | missing (parameter : Parameter)
deriving Repr, DecidableEq

def Misuse.message : Misuse → String
  | .noSubcommand => "a subcommand is required"
  | .unknownSubcommand name => "unknown subcommand '" ++ name ++ "'"
  | .unexpected argument => "unexpected argument '" ++ argument ++ "'"
  | .noValue parameter => "a value is required for '--" ++ parameter.name ++ "'"
  | .emptyPath parameter => "the path of '--" ++ parameter.name ++ "' is empty"
  | .repeated name => "'--" ++ name ++ "' is given more than once"
  | .missing parameter => "'--" ++ parameter.name ++ "' is required"

/-- Why the reading of arguments ends early: help is asked for, or they are misused. -/
inductive Stop
  | help
  | misuse (m : Misuse)
deriving Repr, DecidableEq

/-! ## Shapes -/

inductive Shape
  | separator
  | long (name : String) (value : Option String)
  | letters (cs : List Char)
  | word
deriving Repr, DecidableEq

/-- The shape of an argument that starts with two hyphens, from what follows them. -/
def Shape.ofLong (cs : List Char) : Shape :=
  let name := String.ofList (cs.takeWhile (· ≠ '='))
  match cs.dropWhile (· ≠ '=') with
  | [] => .long name none
  | _ :: value => .long name (some (String.ofList value))

def Shape.of (argument : String) : Shape :=
  match argument.toList with
  | ['-', '-'] => .separator
  | '-' :: '-' :: cs => .ofLong cs
  | '-' :: c :: cs => .letters (c :: cs)
  | _ => .word

/-! ## Switches -/

/-- A switch that every subcommand has. -/
inductive Switch
  | verbose
  | help
deriving Repr, DecidableEq

namespace Switch

def ofName? : String → Option Switch
  | "verbose" => some verbose
  | "help" => some help
  | _ => none

def ofLetter? : Char → Option Switch
  | 'v' => some verbose
  | 'h' => some help
  | _ => none

/-- Sets a switch; `isVerbose` says whether more is to be told. -/
def set (isVerbose : Bool) : Switch → Except Stop Bool
  | verbose => if isVerbose then .error (.misuse (.repeated "verbose")) else .ok true
  | help => .error .help

def setLetters (argument : String) (isVerbose : Bool) : List Char → Except Stop Bool
  | [] => .ok isVerbose
  | c :: cs =>
      match ofLetter? c with
      | none => .error (.misuse (.unexpected argument))
      | some switch => do setLetters argument (← switch.set isVerbose) cs

end Switch

/-! ## Reading -/

structure Grammar where
  parameters : List Parameter
  /-- The parameters that may be given more than once. -/
  repeatable : List Parameter := []
  /-- The parameters whose value is the next argument, whatever its shape. -/
  literal : List Parameter := []
  /-- Whether an argument that is nothing else is a free word, and all behind it. -/
  hasWords : Bool := false

structure Given where
  values : List (Parameter × String) := []
  words : List String := []
  isVerbose : Bool := false
deriving Repr, DecidableEq

namespace Given

def value? (given : Given) (parameter : Parameter) : Option String :=
  given.values.lookup parameter

def valuesOf (given : Given) (parameter : Parameter) : List String :=
  (given.values.filter (·.1 = parameter)).map (·.2)

def require (given : Given) (parameter : Parameter) : Except Stop String :=
  match given.value? parameter with
  | some value => .ok value
  | none => .error (.misuse (.missing parameter))

end Given

namespace Grammar

def parameter? (grammar : Grammar) (name : String) : Option Parameter :=
  grammar.parameters.find? (·.name = name)

def knows (grammar : Grammar) (name : String) : Bool :=
  (grammar.parameter? name).isSome || (Switch.ofName? name).isSome

/-- Whether an argument, by its shape, can be a free word. -/
def isWord (grammar : Grammar) : Shape → Bool
  | .separator => false
  | .long name _ => grammar.hasWords && !grammar.knows name
  | .letters cs => grammar.hasWords && cs.any fun c => (Switch.ofLetter? c).isNone
  | .word => grammar.hasWords

/-- Whether an argument can be the value of a parameter whose name stands in front of it. -/
def isValue (grammar : Grammar) (parameter : Parameter) (argument : String) : Bool :=
  let shape := Shape.of argument
  grammar.literal.contains parameter || shape = .word || grammar.isWord shape

def give (grammar : Grammar) (given : Given) (parameter : Parameter) (value : String) :
    Except Stop Given := do
  if (given.value? parameter).isSome ∧ !grammar.repeatable.contains parameter then
    throw (.misuse (.repeated parameter.name))
  if parameter.isPath ∧ value.isEmpty then throw (.misuse (.emptyPath parameter))
  return { given with values := given.values ++ [(parameter, value)] }

def readSwitch (argument : String) (given : Given) : Shape → Except Stop Given
  | .long name none =>
      match Switch.ofName? name with
      | some switch => do return { given with isVerbose := ← switch.set given.isVerbose }
      | none => .error (.misuse (.unexpected argument))
  | .letters cs => do
      return { given with isVerbose := ← Switch.setLetters argument given.isVerbose cs }
  | _ => .error (.misuse (.unexpected argument))

def endAt (grammar : Grammar) (given : Given) (rest : List String) : Except Stop Given :=
  match rest with
  | [] => .ok given
  | argument :: _ =>
      if grammar.hasWords then .ok { given with words := rest }
      else .error (.misuse (.unexpected argument))

def read (grammar : Grammar) (given : Given) : List String → Except Stop Given
  | [] => .ok given
  | argument :: rest =>
      let shape := Shape.of argument
      match shape with
      | .separator => grammar.endAt given rest
      | .long name value =>
          match grammar.parameter? name, value, rest with
          | some parameter, some value, rest => do
              grammar.read (← grammar.give given parameter value) rest
          | some parameter, none, value :: rest => do
              if grammar.isValue parameter value then
                grammar.read (← grammar.give given parameter value) rest
              else throw (.misuse (.noValue parameter))
          | some parameter, none, [] => .error (.misuse (.noValue parameter))
          | none, _, rest => do
              if grammar.isWord shape then return { given with words := argument :: rest }
              grammar.read (← readSwitch argument given shape) rest
      | .letters _ | .word => do
          if grammar.isWord shape then return { given with words := argument :: rest }
          grammar.read (← readSwitch argument given shape) rest

end Grammar

end CommandForms.CommandLine
