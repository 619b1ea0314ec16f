import CommandForms.Dialogue.Turn

/-!
# Constructing values

The conversation that builds a value for a schema, field by field.  An optional field may be skipped.  A
field that is finished leaves one line on the screen, which shows its value; everything else that it put
there is erased.
-/

namespace CommandForms.Dialogue

open CommandForms.Json (Value Number)
open CommandForms.Numeral (integerText)

def textsValue (texts : List String) : Value :=
  .array (texts.map .string)

def integerValue (n : Int64) : Value :=
  .number (.ofInt64 n)

def askMember (name : String) (options : StringSetOptions) (source : CompletionSource)
    (members : List String) (lines : Nat) (resume : Value → Nat → Turn) : Turn :=
  .write (valueLine name (textsValue members)) lines
    (.ask (.member name options source members) (lines + 1) resume)

/-- Shows the counts of aspects and asks for an aspect. -/
def askAspect (name : String) (keys : CountBounds) (source : CompletionSource)
    (counts : List (String × Value)) (lines : Nat) (resume : Value → Nat → Turn) : Turn :=
  .write (valueLine name (.object counts)) lines
    (.ask (.aspect name keys source counts) (lines + 1) resume)

def askAction (name : String) (element : Schema) (length : CountBounds) (items : List Value)
    (lines : Nat) (resume : Value → Nat → Turn) : Turn :=
  .write (valueLine name (.array items)) lines
    (.ask (.action name element length items) (lines + 1) resume)

/-- Goes on with the completion source that a field declares, unless its delimiter is not well formed. -/
def withSource (options : List String) (pattern : Option String)
    (next : CompletionSource → Turn) : Turn :=
  match CompletionSource.ofOptions options pattern with
  | .ok source => next source
  | .error e => .abort e

/-- Leaves one line for a value in place of the lines since `mark`. -/
def commit (name : String) (mark : Nat) (resume : Value → Nat → Turn) (value : Value) (lines : Nat) :
    Turn :=
  .erase lines mark (.write (valueLine name value) mark (resume value (mark + 1)))

/-- A field around the conversation of its kind: asks first whether to skip an optional field, and leaves
one line in the end. -/
def framed (label : Label) (lines : Nat) (resume : Value → Nat → Turn)
    (kind : Nat → (Value → Nat → Turn) → Turn) : Turn :=
  let finish := commit label.name lines resume
  if label.required then kind lines finish
  else
    .confirm ("Skip " ++ label.name ++ "?") (some false) lines fun skip =>
      if skip then finish .null (lines + 1) else kind (lines + 1) finish

mutual

/-- Builds a value for a schema.  `lines` counts the lines on the screen. -/
def constructField (aspects : AspectSet) (s : Schema) (lines : Nat) (resume : Value → Nat → Turn) :
    Turn :=
  framed s.label lines resume fun lines finish =>
    match s with
    | .string label options =>
        withSource options.autocomplete options.delimiter fun source =>
          .ask (.text label.name options source) lines finish
    | .stringSet label options =>
        withSource options.autocomplete options.delimiter fun source =>
          askMember label.name options source (options.default.getD []) lines finish
    | .integer label options => .ask (.number label.name options) lines finish
    | .boolean label default =>
        .confirm (label.name ++ "?") default lines fun yes => finish (.bool yes) (lines + 1)
    | .aspectMap label keys => askAspect label.name keys aspects.source [] lines finish
    | .object _ fields => constructFields aspects fields [] lines finish
    | .array label element length => askAction label.name element length [] lines finish

/-- Builds the values of the fields of an object and puts those that are not null into a record. -/
def constructFields (aspects : AspectSet) (fields : List (String × Schema))
    (record : List (String × Value)) (lines : Nat) (resume : Value → Nat → Turn) : Turn :=
  match fields with
  | [] => resume (.object record) lines
  | (key, schema) :: fields =>
      constructField aspects schema lines fun value lines =>
        let record := if value.isNull then record else Entries.insert key value record
        constructFields aspects fields record lines resume

end

/-! ## Answers -/

/-- Changes the membership of an entry in a set; a full set refuses new entries. -/
def toggle (name : String) (options : StringSetOptions) (members : List String) (entry : String) :
    List String × List String :=
  if members.contains entry then (members.erase entry, [])
  else if options.count.leavesRoom members.length then (members ++ [entry], [])
  else (members, [name ++ " holds at most " ++ integerText options.count.most ++ " entries"])

/-- The counts after an aspect was given a count; a count that is not positive drops the aspect. -/
def setCount (counts : List (String × Value)) (name : String) (count : Value) :
    List (String × Value) :=
  match count.safeInteger? with
  | some n => if n ≤ 0 then Entries.erase name counts else Entries.insert name count counts
  | none => counts

/-- The options of the question for the count of an aspect, with the count it has as its default. -/
def countOptions (counts : List (String × Value)) (name : String) : IntegerOptions :=
  { default := ((Entries.find? name counts).bind Value.safeInteger?).bind Numeral.int64? }

/-- The options of the question for the index of the item to remove, the last one by default. -/
def indexOptions (items : List Value) : IntegerOptions :=
  let last := Int64.ofNat (items.length - 1)
  ⟨some 0, some last, some last⟩

/-- The items without the one at an index. -/
def removeAt (items : List Value) (index : Value) : List Value :=
  match index.safeInteger? with
  | some i => items.eraseIdx i.toNat
  | none => items

/-- What follows a line that was typed at a question, where `lines` counts the lines on the screen with
that line among them. -/
def Question.respond (aspects : AspectSet) (question : Question) (typed : String) (lines : Nat)
    (resume : Value → Nat → Turn) : Turn :=
  let line := Text.trim typed
  match question with
  | .text _ options source =>
      let again (lines : Nat) := Turn.ask question lines resume
      if line.isEmpty then
        match options.default with
        | some default => resume (.string default) lines
        | none => again lines
      else
        match choose source options.strict line with
        | .taken entry => resume (.string entry) lines
        | .refused said => writeAll said lines again
  | .number _ options =>
      match readNumber? options line with
      | some n => resume (integerValue n) lines
      | none => .ask question lines resume
  | .member name options source members =>
      let again (members : List String) (lines : Nat) :=
        askMember name options source members lines resume
      if line.isEmpty then
        if options.count.least ≤ members.length then resume (textsValue members) lines
        else again members lines
      else
        match choose source options.strict line with
        | .taken entry =>
            let (members, said) := toggle name options members entry
            writeAll said lines (again members)
        | .refused said => writeAll said lines (again members)
  | .aspect name keys source counts =>
      let again (counts : List (String × Value)) (lines : Nat) :=
        askAspect name keys source counts lines resume
      if line.isEmpty then
        if keys.least ≤ counts.length then resume (.object counts) lines else again counts lines
      else
        match chooseAspect source aspects line with
        | .refused said => writeAll said lines (again counts)
        | .taken chosen =>
            if (Entries.find? chosen counts).isNone && !keys.leavesRoom counts.length then
              writeAll [name ++ " holds at most " ++ integerText keys.most ++ " aspects"] lines
                (again counts)
            else
              .ask (.number chosen (countOptions counts chosen)) lines fun count lines =>
                again (setCount counts chosen count) lines
  | .action name element length items =>
      let again (items : List Value) (lines : Nat) :=
        askAction name element length items lines resume
      match Action.ofLine? (Action.available length items.length) line with
      | none => again items lines
      | some .done => resume (.array items) lines
      | some .add =>
          constructField aspects element lines fun item lines =>
            again (if item.isNull then items else items ++ [item]) lines
      | some .remove =>
          .ask (.number "index" (indexOptions items)) lines fun index lines =>
            again (removeAt items index) lines

def constructTurn (aspects : AspectSet) (s : Schema) : Turn :=
  constructField aspects s 0 fun value _ => .done value

end CommandForms.Dialogue
