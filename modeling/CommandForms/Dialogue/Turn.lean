import CommandForms.Aspects
import CommandForms.Json.Printer
import CommandForms.Numeral.Integer
import CommandForms.Schema.Basic
import CommandForms.Text.Blank

/-!
# Turns of a conversation

A conversation that builds a value asks questions.  What it does up to its next question is a turn, and a
question knows its prompt and its completions.  The questions that are asked again and again while a
collection grows hold the collection built so far.
-/

namespace CommandForms.Dialogue

open CommandForms.Json (Value Number)
open CommandForms.Numeral (integerText)

inductive Question
  | text (name : String) (options : StringOptions) (source : CompletionSource)
  | number (name : String) (options : IntegerOptions)
  | member (name : String) (options : StringSetOptions) (source : CompletionSource)
      (members : List String)
  | aspect (name : String) (keys : CountBounds) (source : CompletionSource)
      (counts : List (String × Value))
  | action (name : String) (element : Schema) (length : CountBounds) (items : List Value)

/-- What a conversation does up to its next question.  At every call, `lines` counts the lines that the
conversation has on the screen.  Erasing goes back to a mark that was the count once, and `resume` goes on
with the value that the question is about. -/
inductive Turn
  | done (value : Value)
  | abort (e : BadDelimiter)
  | write (text : String) (lines : Nat) (next : Turn)
  | erase (lines mark : Nat) (next : Turn)
  | confirm (prompt : String) (default : Option Bool) (lines : Nat) (next : Bool → Turn)
  | ask (question : Question) (lines : Nat) (resume : Value → Nat → Turn)

/-! ## Array actions -/

/-- What can be done to a list of items. -/
inductive Action
  | add
  | remove
  | done
deriving Repr, DecidableEq

namespace Action

def label : Action → String
  | .add => "add"
  | .remove => "remove"
  | .done => "done"

def ofLabel? (label : String) : Option Action :=
  [add, remove, done].find? (·.label = label)

def available (length : CountBounds) (count : Nat) : List Action :=
  (if length.leavesRoom count then [add] else []) ++ (if 0 < count then [remove] else []) ++
    (if length.least ≤ count then [done] else [])

def source (actions : List Action) : CompletionSource :=
  ⟨actions.map label, none⟩

/-- The action that a line means among those that are open; an empty line means `done`. -/
def ofLine? (actions : List Action) (line : String) : Option Action :=
  let meant? :=
    if line.isEmpty then some done
    else
      match (source actions).complete line with
      | .complete label => ofLabel? label
      | .ambiguous _ => none
  meant?.filter actions.contains

end Action

/-! ## Prompts -/

def textPrompt (name : String) (default : Option String) : String :=
  match default with
  | some default => name ++ " [" ++ default ++ "]> "
  | none => name ++ "> "

/-- The prompt for an integer, with its bounds and its default. -/
def numberPrompt (name : String) (options : IntegerOptions) : String :=
  let text (n : Int64) := integerText n.toInt
  let range :=
    match options.min, options.max with
    | some min, some max => " (" ++ text min ++ ".." ++ text max ++ ")"
    | some min, none => " (>= " ++ text min ++ ")"
    | none, some max => " (<= " ++ text max ++ ")"
    | none, none => ""
  let default :=
    match options.default with
    | some default => " [" ++ text default ++ "]"
    | none => ""
  name ++ range ++ default ++ "> "

/-- The prompt for an entry of a collection, which says so when an empty line finishes it. -/
def collectionPrompt (name : String) (finishable : Bool) : String :=
  if finishable then name ++ " (empty line to finish)> " else name ++ "> "

def actionPrompt (name : String) (actions : List Action) : String :=
  name ++ " (" ++ "/".intercalate (actions.map Action.label) ++ ")> "

namespace Question

def prompt : Question → String
  | .text name options _ => textPrompt name options.default
  | .number name options => numberPrompt name options
  | .member name options _ members =>
      collectionPrompt name (options.count.least ≤ members.length)
  | .aspect name keys _ counts => collectionPrompt (name ++ " aspect") (keys.least ≤ counts.length)
  | .action name _ length items => actionPrompt name (Action.available length items.length)

def source? : Question → Option CompletionSource
  | .text _ _ source => some source
  | .number .. => none
  | .member _ _ source _ => some source
  | .aspect _ _ source _ => some source
  | .action _ _ length items => some (Action.source (Action.available length items.length))

end Question

/-! ## Entries -/

def valueLine (name : String) (value : Value) : String :=
  name ++ ": " ++ value.render

/-- Writes lines one after another, and goes on with their number added to the count. -/
def writeAll (texts : List String) (lines : Nat) (next : Nat → Turn) : Turn :=
  match texts with
  | [] => next lines
  | text :: texts => .write text lines (writeAll texts (lines + 1) next)

/-- What a typed text comes to: an entry, or a refusal with what is said about it. -/
inductive Choice
  | taken (entry : String)
  | refused (said : List String)
deriving Repr, DecidableEq

/-- The entry that a typed text means.  An option that equals it, case aside, is meant in its declared
spelling.  Else a free field takes the text as it is, and a strict field takes the option that the text
completes to. -/
def choose (source : CompletionSource) (strict : Bool) (line : String) : Choice :=
  match source.member? line with
  | some option => .taken option
  | none =>
      if !strict then .taken line
      else if source.options.isEmpty then .refused []
      else
        match source.complete line with
        | .ambiguous candidates => .refused ["  ".intercalate candidates]
        | .complete text =>
            match source.member? text with
            | some option => .taken option
            | none => .refused [line ++ " is not one of the available options"]

/-- The aspect that a typed text means: a known name that equals it, case aside, or the known name that
it completes to. -/
def chooseAspect (source : CompletionSource) (aspects : AspectSet) (line : String) : Choice :=
  match source.member? line with
  | some name => .taken name
  | none =>
      match source.complete line with
      | .ambiguous candidates => .refused ["  ".intercalate candidates]
      | .complete text =>
          if aspects.contains text then .taken text
          else .refused [line ++ " is not a valid aspect"]

/-- The integer that a line means: the default for an empty line, and otherwise a safe integer within
the bounds. -/
def readNumber? (options : IntegerOptions) (line : String) : Option Int64 :=
  if line.isEmpty then options.default
  else
    (Numeral.readInt64? line.toList).filter fun n =>
      n.toInt.natAbs ≤ Value.maxSafeInteger && options.contains n.toInt

end CommandForms.Dialogue
