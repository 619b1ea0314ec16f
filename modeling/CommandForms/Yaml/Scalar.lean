import CommandForms.Numeral.Hex
import CommandForms.Text.Rest
import CommandForms.Yaml.Character

/-!
# Scalars of YAML texts

How the text of a scalar is read: plain, in single or double quotes, or as an indented block.  A line end
inside a plain or a quoted scalar is a space, and each further one a line feed.  All line ends have been
written as line feeds before, apart from the two separators of Unicode, which stand for themselves.
-/

namespace CommandForms.Yaml

open CommandForms.Numeral (hexValue?)

/-! ## Gaps -/

/-- The line ends of a gap, folded: a line feed alone is a space, and one in front of others is left
out. -/
def foldBreaks : List Char → List Char
  | ['\n'] => [' ']
  | '\n' :: breaks => breaks
  | breaks => breaks

/-- What a gap between the words of a scalar stands for: the space itself when it lies inside a line, and
else its line ends, folded. -/
def gapText (gap : List Char) : List Char :=
  if gap.any isBreak then foldBreaks (gap.filter isBreak) else gap

def gapColumn (gap : List Char) : Nat :=
  (gap.reverse.takeWhile fun c => !isBreak c).length

/-- Whether a text that starts a line is a mark of documents: three hyphens or three points in front of a
gap. -/
def isDocumentMark : List Char → Bool
  | '-' :: '-' :: '-' :: rest => startsGap rest
  | '.' :: '.' :: '.' :: rest => startsGap rest
  | _ => false

def marksDocument (gap rest : List Char) : Bool :=
  gap.any isBreak && gapColumn gap == 0 && isDocumentMark rest

theorem dropWhile_length_le (p : Char → Bool) (cs : List Char) :
    (cs.dropWhile p).length ≤ cs.length :=
  (List.dropWhile_suffix p).length_le

/-! ## Quoted scalars -/

/-- Reads a scalar behind its opening single quote, up to the closing one.  Two quotes stand for one. -/
def readSingleQuoted (cs : List Char) : Option (List Char × List Char) :=
  match cs with
  | [] => none
  | '\'' :: '\'' :: rest => do
      let (text, rest') ← readSingleQuoted rest
      return ('\'' :: text, rest')
  | '\'' :: rest => some ([], rest)
  | c :: rest =>
      if isGap c then
        let gap := c :: rest.takeWhile isGap
        let rest' := rest.dropWhile isGap
        if marksDocument gap rest' then none
        else do
          let (text, rest'') ← readSingleQuoted rest'
          return (gapText gap ++ text, rest'')
      else do
        let (text, rest') ← readSingleQuoted rest
        return (c :: text, rest')
termination_by cs.length
decreasing_by
  all_goals
    have := dropWhile_length_le isGap rest
    simp only [List.length_cons]
    omega

def simpleEscape? : Char → Option Char
  | '0' => some '\x00'
  | 'a' => some '\x07'
  | 'b' => some '\x08'
  | 't' => some '\t'
  | '\t' => some '\t'
  | 'n' => some '\n'
  | 'v' => some '\x0b'
  | 'f' => some '\x0c'
  | 'r' => some '\r'
  | 'e' => some '\x1b'
  | ' ' => some ' '
  | '"' => some '"'
  | '/' => some '/'
  | '\\' => some '\\'
  | 'N' => some '\u0085'
  | '_' => some '\u00a0'
  | 'L' => some '\u2028'
  | 'P' => some '\u2029'
  | _ => none

def escapeDigits? : Char → Option Nat
  | 'x' => some 2
  | 'u' => some 4
  | 'U' => some 8
  | _ => none

/-- The character of a code point, unless it is half of a pair or too large. -/
def codePoint? (n : Nat) : Option Char :=
  if n.isValidChar then some (Char.ofNat n) else none

def readEscape (cs : List Char) :
    Option (Char × { rest : List Char // rest.length < cs.length }) :=
  match cs with
  | [] => none
  | c :: rest =>
      match simpleEscape? c with
      | some d => some (d, ⟨rest, Text.length_lt_cons c rest⟩)
      | none => do
          let digits ← escapeDigits? c
          if rest.length < digits then none
          else
            let d ← codePoint? (← hexValue? (rest.take digits))
            return (d, ⟨rest.drop digits, Text.length_drop_lt_cons digits c rest⟩)

/-- Reads a scalar behind its opening double quote, up to the closing one.  A backslash at the end of a
line joins it to the next without a space. -/
def readDoubleQuoted (cs : List Char) : Option (List Char × List Char) :=
  match cs with
  | [] => none
  | '"' :: rest => some ([], rest)
  | '\\' :: [] => none
  | '\\' :: c :: rest =>
      if isBreak c then
        let gap := rest.takeWhile isGap
        let rest' := rest.dropWhile isGap
        if marksDocument (c :: gap) rest' then none
        else do
          let (text, rest'') ← readDoubleQuoted rest'
          return (gap.filter isBreak ++ text, rest'')
      else do
        let (d, ⟨rest', _h⟩) ← readEscape (c :: rest)
        let (text, rest'') ← readDoubleQuoted rest'
        return (d :: text, rest'')
  | c :: rest =>
      if isGap c then
        let gap := c :: rest.takeWhile isGap
        let rest' := rest.dropWhile isGap
        if marksDocument gap rest' then none
        else do
          let (text, rest'') ← readDoubleQuoted rest'
          return (gapText gap ++ text, rest'')
      else do
        let (text, rest') ← readDoubleQuoted rest
        return (c :: text, rest')
termination_by cs.length
decreasing_by
  · have := dropWhile_length_le isGap rest
    simp only [List.length_cons]
    omega
  · simp only [List.length_cons] at *
    omega
  · have := dropWhile_length_le isGap rest
    simp only [List.length_cons]
    omega
  · simp only [List.length_cons]
    omega

/-! ## Plain scalars -/

def isFlowMark (c : Char) : Bool :=
  c == ',' || c == '[' || c == ']' || c == '\x7b' || c == '\x7d'

/-- Whether a character must not follow a colon inside a plain scalar of a flow collection. -/
def followsColonBadly : List Char → Bool
  | c :: _ => isFlowMark c || c == '?'
  | [] => false

/-- Reads the word in front: up to a gap, to a colon in front of a gap, and inside a flow collection up
to a mark of it. -/
def readWord (flow : Bool) :
    (cs : List Char) → Option (List Char × { rest : List Char // rest.length ≤ cs.length })
  | [] => some ([], ⟨[], Nat.le_refl _⟩)
  | c :: cs =>
      if isGap c then some ([], ⟨c :: cs, Nat.le_refl _⟩)
      else if flow && c == ':' && followsColonBadly cs then none
      else if (c == ':' && startsGap cs) || (flow && isFlowMark c) then
        some ([], ⟨c :: cs, Nat.le_refl _⟩)
      else do
        let (word, ⟨rest, h⟩) ← readWord flow cs
        return (c :: word, ⟨rest, Nat.le_succ_of_le h⟩)

/-- Whether a tab stands too far to the left on a line; `column` is where the text starts. -/
def hasEarlyTab (indent : Nat) : (column : Nat) → List Char → Bool
  | _, [] => false
  | column, c :: cs =>
      if isBreak c then hasEarlyTab indent 0 cs
      else (c == '\t' && column < indent) || hasEarlyTab indent (column + 1) cs

/-- A plain scalar: its text, the rest behind it and behind the gap that follows, and whether that gap
ends a line. -/
structure Plain where
  text : List Char
  rest : List Char
  endsLine : Bool

/-- Reads the further words of a plain scalar.  Outside of flow collections they are indented by at least
`indent` columns. -/
def readPlainTail (flow : Bool) (indent : Nat) (cs : List Char) : Option Plain :=
  match cs with
  | [] => some ⟨[], [], false⟩
  | c :: cs' =>
      if isGap c then
        let gap := c :: cs'.takeWhile isGap
        let rest := cs'.dropWhile isGap
        have _hrest : rest.length ≤ cs'.length := dropWhile_length_le isGap cs'
        let endsLine := gap.any isBreak
        if hasEarlyTab indent 0 (gap.dropWhile fun c => !isBreak c) then none
        else if endsLine && !flow && gapColumn gap < indent || marksDocument gap rest ||
            rest.head? == some '#' then
          some ⟨[], rest, endsLine⟩
        else do
          let (word, ⟨rest', _h⟩) ← readWord flow rest
          if word = [] then return ⟨[], rest', endsLine⟩
          else
            let tail ← readPlainTail flow indent rest'
            return { tail with text := gapText gap ++ word ++ tail.text }
      else some ⟨[], c :: cs', false⟩
termination_by cs.length

def readPlain (flow : Bool) (indent : Nat) (cs : List Char) : Option Plain := do
  let (word, ⟨rest, _⟩) ← readWord flow cs
  let tail ← readPlainTail flow indent rest
  return { tail with text := word ++ tail.text }

/-! ## Block scalars -/

/-- What becomes of the line ends at the end of a block scalar. -/
inductive Chomping
  | strip
  | clip
  | keep
deriving Repr, DecidableEq

def chomping? : Char → Option Chomping
  | '+' => some .keep
  | '-' => some .strip
  | _ => none

def indentDigit? (c : Char) : Option Nat :=
  if '0' ≤ c ∧ c ≤ '9' then some (c.toNat - '0'.toNat) else none

/-- Reads the chomping sign and the indentation digit, in either order; the digit is not zero. -/
def readBlockHeader (cs : List Char) : Option (Chomping × Option Nat × List Char) := do
  let (sign, digit, rest) := match cs with
    | c :: d :: rest =>
        match chomping? c, indentDigit? c, chomping? d, indentDigit? d with
        | some sign, _, _, some digit => (some sign, some digit, rest)
        | _, some digit, some sign, _ => (some sign, some digit, rest)
        | some sign, _, _, _ => (some sign, none, d :: rest)
        | _, some digit, _, _ => (none, some digit, d :: rest)
        | _, _, _, _ => (none, none, c :: d :: rest)
    | [c] =>
        match chomping? c, indentDigit? c with
        | some sign, _ => (some sign, none, [])
        | _, some digit => (none, some digit, [])
        | _, _ => (none, none, [c])
    | [] => (none, none, [])
  if digit = some 0 then none else return (sign.getD .clip, digit, rest)

/-- The rest behind space, a comment and the end of the line; nothing when something else stands there. -/
def restOfLine? (cs : List Char) : Option (List Char) :=
  let spaced := cs.dropWhile isSpace
  let bare := if spaced.head? == some '#' then spaced.dropWhile fun c => !isBreak c else spaced
  match bare with
  | [] => some []
  | c :: rest => if isBreak c then some rest else none

/-- The empty lines in front of a line of a block scalar. -/
structure BlockGap where
  breaks : List Char
  column : Nat
  widest : Nat
  rest : List Char

/-- Reads empty lines and the indentation of the line behind them: up to `indent` columns, or any number
when none is given.  A tab must not stand in the indentation. -/
def readBlockGap (indent : Option Nat) (column widest : Nat) : List Char → Option BlockGap
  | [] => some ⟨[], column, max widest column, []⟩
  | c :: cs =>
      let inside := indent.all (column < ·)
      if inside && c == ' ' then readBlockGap indent (column + 1) widest cs
      else if inside && c == '\t' then none
      else if isBreak c then do
        let gap ← readBlockGap indent 0 (max widest column) cs
        return { gap with breaks := c :: gap.breaks }
      else some ⟨[], column, max widest column, c :: cs⟩

theorem readBlockGap_length_le (indent : Option Nat) (column widest : Nat) (cs : List Char)
    {gap : BlockGap} (h : readBlockGap indent column widest cs = some gap) :
    gap.rest.length ≤ cs.length := by
  fun_induction readBlockGap indent column widest cs generalizing gap with
  | case1 =>
      obtain rfl := Option.some.inj h
      exact Nat.le_refl _
  | case2 =>
      rename_i ih
      exact Nat.le_succ_of_le (ih h)
  | case3 => simp at h
  | case4 =>
      rename_i ih
      obtain ⟨tail, htail, htaken⟩ := Option.bind_eq_some_iff.1 h
      obtain rfl := Option.some.inj htaken
      have := ih htail
      exact Nat.le_succ_of_le this
  | case5 =>
      obtain rfl := Option.some.inj h
      exact Nat.le_refl _

/-- How the lines of a block scalar go on: the line end of the line before, whether that line starts with
space, and the empty lines behind it. -/
structure BlockLines where
  lineEnd : List Char := []
  indented : Bool := false
  breaks : List Char

/-- What stands between two lines of a block scalar.  Between two lines of a folded one that do not start
with space, the line end counts as a space when no empty line follows, and else for nothing. -/
def BlockLines.joint (before : BlockLines) (folded indented : Bool) : List Char :=
  if folded && before.lineEnd == ['\n'] && !before.indented && !indented then
    (if before.breaks = [] then [' '] else []) ++ before.breaks
  else before.lineEnd ++ before.breaks

def BlockLines.chomped (before : BlockLines) : Chomping → List Char
  | .strip => []
  | .clip => before.lineEnd
  | .keep => before.lineEnd ++ before.breaks

/-- Reads the lines of a block scalar from the column where the next line starts. -/
def readBlockLines (folded : Bool) (chomping : Chomping) (indent : Nat) (before : BlockLines)
    (column : Nat) (cs : List Char) : Option (List Char × List Char) :=
  match cs with
  | [] => some (before.chomped chomping, [])
  | c :: cs' =>
      if column = indent then
        let indented := isSpace c
        let line := (c :: cs').takeWhile fun c => !isBreak c
        let rest := (c :: cs').dropWhile fun c => !isBreak c
        match hgap : readBlockGap (some indent) 0 0 rest.tail with
        | none => none
        | some gap =>
            have : gap.rest.length < (c :: cs').length := by
              have hrest : rest.length ≤ (c :: cs').length := dropWhile_length_le _ _
              have := readBlockGap_length_le _ _ _ _ hgap
              rw [List.length_tail] at this
              rw [List.length_cons] at hrest ⊢
              omega
            do
              let (text, rest') ← readBlockLines folded chomping indent
                ⟨rest.take 1, indented, gap.breaks⟩ gap.column gap.rest
              return (before.joint folded indented ++ line ++ text, rest')
      else some (before.chomped chomping, c :: cs')
termination_by cs.length
decreasing_by
  rw [List.length_cons] at *
  omega

/-- Reads a block scalar behind its mark, inside a collection that is indented by `parent` columns. -/
def readBlock (folded : Bool) (parent : Option Nat) (cs : List Char) :
    Option (List Char × List Char) := do
  let (chomping, digit, rest) ← readBlockHeader cs
  let lines ← restOfLine? rest
  let given := digit.map (· + parent.getD 0)
  let gap ← readBlockGap given 0 0 lines
  let least := max 1 (match parent with | some n => n + 1 | none => 0)
  let indent := given.getD (max gap.widest least)
  readBlockLines folded chomping indent ⟨[], false, gap.breaks⟩ gap.column gap.rest

end CommandForms.Yaml
