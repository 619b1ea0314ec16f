import CommandForms.Yaml.Tag
import CommandForms.Yaml.Token

/-!
# Layout of YAML texts

How a text is cut into tokens.  Indentation opens and closes block collections.  What stands in front of
a colon is a key, which shows only when the colon comes; so every place where a key may have started
leaves a slot between the tokens, and the slots that turn out to be keys are filled in the end.
-/

namespace CommandForms.Yaml

/-- A place where a key may have started: its line, the characters and the bytes in front of it on the
line.  A required one must turn out to be a key. -/
structure Slot where
  number : Nat
  line : Nat
  column : Nat
  byte : Nat
  required : Bool

inductive Piece
  | token (t : Token)
  | slot (number : Nat)

/-- How far a text has been cut: the rest and its place, on its line in characters and in bytes, the
indentation of the open block collections,
innermost first, the slot that may become a key at every level of flow collections, whether a key may
start here, the pieces, last one first, and the slots that are keys, each with whether a block mapping
starts there. -/
structure Layout where
  rest : List Char
  line : Nat := 0
  column : Nat := 0
  byte : Nat := 0
  indent : Option Nat := none
  outerIndents : List (Option Nat) := []
  slot : Option Slot := none
  outerSlots : List (Option Slot) := []
  keyAllowed : Bool := true
  pieces : List Piece := []
  slots : Nat := 0
  keys : List (Nat × Bool) := []

namespace Layout

def flow (l : Layout) : Bool :=
  !l.outerSlots.isEmpty

def emit (l : Layout) (t : Token) : Layout :=
  { l with pieces := .token t :: l.pieces }

def moveTo (l : Layout) (rest : List Char) : Layout :=
  let passed := l.rest.take (l.rest.length - rest.length)
  let (line, column, byte) := passed.foldl
    (fun (line, column, byte) c =>
      if isBreak c then (line + 1, 0, 0) else (line, column + 1, byte + c.utf8Size))
    (l.line, l.column, l.byte)
  { l with rest, line, column, byte }

def skip (l : Layout) (n : Nat) : Layout :=
  l.moveTo (l.rest.drop n)

/-! ## Indentation -/

/-- Opens a block collection when the column lies deeper than the innermost one. -/
def openBlock (l : Layout) (start : Token) : Layout :=
  if l.flow || !l.indent.all (· < l.column) then l
  else { l with indent := some l.column, outerIndents := l.indent :: l.outerIndents }.emit start

/-- Closes the block collections that lie deeper than a column; no column closes all. -/
def closeBlocks (column : Option Nat) (l : Layout) : Layout :=
  if l.flow then l
  else
    let (closed, indent, outerIndents) := deeper l.indent l.outerIndents
    { l with indent, outerIndents, pieces := List.replicate closed (.token .blockEnd) ++ l.pieces }
where
  /-- Counts the collections to close, and answers the remaining ones. -/
  deeper : Option Nat → List (Option Nat) → Nat × Option Nat × List (Option Nat)
    | some n, outer :: outers =>
        if column.all (· < n) then
          let (closed, rest) := deeper outer outers
          (closed + 1, rest)
        else (0, some n, outer :: outers)
    | indent, outers => (0, indent, outers)

/-! ## Slots -/

/-- Gives up the slot of the innermost level; a required one cannot be given up. -/
def dropSlot (l : Layout) : Option Layout :=
  if l.slot.any (·.required) then none else some { l with slot := none }

def leaveSlot (l : Layout) : Option Layout := do
  if l.keyAllowed then
    let l ← l.dropSlot
    return { l with
      slot := some ⟨l.slots, l.line, l.column, l.byte, !l.flow && l.indent == some l.column⟩
      pieces := .slot l.slots :: l.pieces
      slots := l.slots + 1 }
  else return l

def maxKeyBytes : Nat := 1024

/-- A slot as long as its line and its reach last; a required one must last. -/
def Slot.refresh (l : Layout) : Option Slot → Option (Option Slot)
  | some slot =>
      if slot.line < l.line ∨ slot.byte + maxKeyBytes < l.byte then
        if slot.required then none else some none
      else some (some slot)
  | none => some none

def refreshSlots (l : Layout) : Option Layout := do
  return { l with
    slot := ← Slot.refresh l l.slot
    outerSlots := ← l.outerSlots.mapM (Slot.refresh l) }

/-! ## Between tokens -/

/-- Where the text between two tokens stands: at the start of a line, later in it, or in a comment. -/
inductive Gap
  | lineStart
  | line
  | comment
deriving DecidableEq

/-- Passes over space, comments and line ends.  A byte order mark at the start of a line counts as space,
and so does a tab where no key may start.  Outside of flow collections, a key may start on a new line. -/
def skipGaps (flow : Bool) : Gap → (keyAllowed : Bool) → List Char → List Char × Bool
  | _, keyAllowed, [] => ([], keyAllowed)
  | gap, keyAllowed, c :: cs =>
      if isBreak c then skipGaps flow .lineStart (keyAllowed || !flow) cs
      else if gap = .comment then skipGaps flow .comment keyAllowed cs
      else if c == ' ' || (c == '\t' && (flow || !keyAllowed)) then skipGaps flow .line keyAllowed cs
      else if gap = .lineStart && c == '\ufeff' then skipGaps flow .line keyAllowed cs
      else if c == '#' then skipGaps flow .comment keyAllowed cs
      else (c :: cs, keyAllowed)

/-- Goes on to the next token: closes what ends in front of it. -/
def settle (l : Layout) : Option Layout := do
  let (rest, keyAllowed) := skipGaps l.flow (if l.column = 0 then .lineStart else .line) l.keyAllowed l.rest
  let l ← { l.moveTo rest with keyAllowed }.refreshSlots
  return l.closeBlocks (some l.column)

/-! ## Tokens -/

def takeDocumentMark (l : Layout) (t : Token) : Option Layout := do
  let l ← (l.closeBlocks none).dropSlot
  return ({ l with keyAllowed := false }.emit t).skip 3

def takeDirective (l : Layout) : Option Layout := do
  let l ← (l.closeBlocks none).dropSlot
  let (directive, rest) ← readDirective l.rest.tail
  let t := match directive with
    | .version major minor => .version major minor
    | .handle handle start => .tagHandle (String.ofList handle) start
  return ({ l with keyAllowed := false }.emit t).moveTo rest

def takeFlowStart (l : Layout) (t : Token) : Option Layout := do
  let l ← l.leaveSlot
  return ({ l with slot := none, outerSlots := l.slot :: l.outerSlots, keyAllowed := true }.emit t).skip 1

def takeFlowEnd (l : Layout) (t : Token) : Option Layout := do
  let l ← l.dropSlot
  let l := match l.outerSlots with
    | slot :: outerSlots => { l with slot, outerSlots }
    | [] => l
  return ({ l with keyAllowed := false }.emit t).skip 1

def takeComma (l : Layout) : Option Layout := do
  let l ← l.dropSlot
  return ({ l with keyAllowed := true }.emit .comma).skip 1

def takeEntry (l : Layout) : Option Layout := do
  if !l.flow && !l.keyAllowed then none
  else
    let l ← (l.openBlock .blockSequence).dropSlot
    return ({ l with keyAllowed := true }.emit .entry).skip 1

def takeKey (l : Layout) : Option Layout := do
  if !l.flow && !l.keyAllowed then none
  else
    let l ← (l.openBlock .blockMapping).dropSlot
    return ({ l with keyAllowed := !l.flow }.emit .key).skip 1

/-- Cuts the colon in front of a value; a slot becomes a key. -/
def takeValue (l : Layout) : Option Layout :=
  match l.slot with
  | some slot =>
      let starts := !l.flow && l.indent.all (· < slot.column)
      let l := if starts then
          { l with indent := some slot.column, outerIndents := l.indent :: l.outerIndents }
        else l
      some (({ l with
        slot := none
        keyAllowed := false
        keys := (slot.number, starts) :: l.keys }.emit .value).skip 1)
  | none =>
      if !l.flow && !l.keyAllowed then none
      else
        let l := l.openBlock .blockMapping
        some (({ l with keyAllowed := !l.flow }.emit .value).skip 1)

def endsName : List Char → Bool
  | c :: _ => isGap c || ['?', ':', ',', ']', '\x7d', '%', '@', '\x60'].contains c
  | [] => true

def takeName (l : Layout) (token : String → Token) : Option Layout := do
  let l ← l.leaveSlot
  let name := l.rest.tail.takeWhile isNameChar
  let rest := l.rest.tail.dropWhile isNameChar
  if name = [] ∨ !endsName rest then none
  else return ({ l with keyAllowed := false }.emit (token (String.ofList name))).moveTo rest

def takeTag (l : Layout) : Option Layout := do
  let l ← l.leaveSlot
  let (handle, suffix, rest) ← readTag l.flow l.rest
  return ({ l with keyAllowed := false }.emit (.tag (String.ofList handle) suffix)).moveTo rest

def takeBlock (l : Layout) (style : Style) : Option Layout := do
  let l ← l.dropSlot
  let (text, rest) ← readBlock (style == .folded) l.indent l.rest.tail
  return ({ l with keyAllowed := true }.emit (.scalar style (String.ofList text))).moveTo rest

def takeQuoted (l : Layout) (read : List Char → Option (List Char × List Char)) : Option Layout := do
  let l ← l.leaveSlot
  let (text, rest) ← read l.rest.tail
  return ({ l with keyAllowed := false }.emit (.scalar .quoted (String.ofList text))).moveTo rest

def takePlain (l : Layout) : Option Layout := do
  let l ← l.leaveSlot
  let plain ← readPlain l.flow ((l.indent.map (· + 1)).getD 0) l.rest
  return ({ l with keyAllowed := plain.endsLine }.emit
    (.scalar .plain (String.ofList plain.text))).moveTo plain.rest

/-- Whether a plain scalar may start with a character, `cs` following. -/
def startsPlain (flow : Bool) (c : Char) (cs : List Char) : Bool :=
  !(isGap c || ['-', '?', ':', ',', '[', ']', '\x7b', '\x7d', '#', '&', '*', '!', '|', '>', '\'', '"', '%',
    '@', '\x60'].contains c) ||
  (c == '-' && !(cs.head?.map isSpace).getD false) ||
  (!flow && (c == '?' || c == ':') && !startsGap cs)

def take (l : Layout) (c : Char) (cs : List Char) : Option Layout :=
  if l.column = 0 ∧ c = '%' then l.takeDirective
  else if l.column = 0 ∧ isDocumentMark (c :: cs) then
    l.takeDocumentMark (if c = '-' then .documentStart else .documentEnd)
  else if c = '[' then l.takeFlowStart .flowSequence
  else if c = '\x7b' then l.takeFlowStart .flowMapping
  else if c = ']' then l.takeFlowEnd .flowSequenceEnd
  else if c = '\x7d' then l.takeFlowEnd .flowMappingEnd
  else if c = ',' then l.takeComma
  else if c = '-' ∧ startsGap cs then l.takeEntry
  else if c = '?' ∧ (l.flow ∨ startsGap cs) then l.takeKey
  else if c = ':' ∧ (l.flow ∨ startsGap cs) then l.takeValue
  else if c = '*' then l.takeName .alias
  else if c = '&' then l.takeName .anchor
  else if c = '!' then l.takeTag
  else if c = '|' ∧ !l.flow then l.takeBlock .literal
  else if c = '>' ∧ !l.flow then l.takeBlock .folded
  else if c = '\'' then l.takeQuoted readSingleQuoted
  else if c = '"' then l.takeQuoted readDoubleQuoted
  else if startsPlain l.flow c cs then l.takePlain
  else none

def finish (l : Layout) : Option Layout :=
  (l.closeBlocks none).dropSlot

/-- The tokens in line, the slots that are keys filled. -/
def tokens (l : Layout) : List Token :=
  l.pieces.reverse.flatMap fun
    | .token t => [t]
    | .slot number =>
        match l.keys.lookup number with
        | some true => [.blockMapping, .key]
        | some false => [.key]
        | none => []

def run : (steps : Nat) → Layout → Option Layout
  | 0, _ => none
  | steps + 1, l => do
      let l ← l.settle
      match l.rest with
      | [] => l.finish
      | c :: cs => run steps (← l.take c cs)

end Layout

/-- The tokens of a text.  There are no more of them than characters, apart from those that take up
none. -/
def Token.ofText? (text : String) : Option (List Token) := do
  let cs := text.toList
  if cs.all isAllowed then
    let l ← Layout.run (cs.length + 1) { rest := lineFeeds cs }
    return l.tokens
  else none

end CommandForms.Yaml
