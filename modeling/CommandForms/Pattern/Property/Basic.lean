import CommandForms.Text.Blank
import CommandForms.Text.Letters
import CommandForms.Text.Marks

/-!
# Properties of characters in patterns

Patterns go by the edition of the character standard before the latest one.  To them the characters of
the latest edition are unassigned, and one letter that has since lost its case is still in lower case.
-/

namespace CommandForms.Pattern.Property

open CommandForms.Text

def newcomers : CodePoints :=
  .ofTurns <| String.join [
    "2191 1 972 1 127 1 3570 15 2 12 1493 1 2772 1 31799 2 2 1 1 1 28 1 21457 16 445 2 54 7 2929 ",
    "26 1387 3 8 9 33 2 3172 8 584 44 4 10 20662 25 2 25 286 5 6145 8 1289 22 97 115 16135 3 445 ",
    "23 15 17 6095 31 1 22 8 2 4056 1 158 4 341 9 379 4 50 1 3 1 57 1 4 1 28 1 4 1 266 1 47935 6 ",
    "5986 12 21762 4298"]

/-- The voiced pharyngeal fricative, which counts as a lower-case letter here. -/
def pharyngeal : CodePoints :=
  .single 0x295

def known (s : CodePoints) : CodePoints :=
  s.diff newcomers

def category (c : GeneralCategory) : CodePoints :=
  match c with
  | .unassigned => c.set.union newcomers
  | .lowercaseLetter => (known c.set).union pharyngeal
  | .otherLetter => (known c.set).diff pharyngeal
  | _ => known c.set

def categories (cs : List GeneralCategory) : CodePoints :=
  .unionOf (cs.map category)

def letters : CodePoints :=
  known (categoryGroup 'L')

def marks : CodePoints :=
  known (categoryGroup 'M')

def digits : CodePoints :=
  category .decimalNumber

def alphabetic : CodePoints :=
  known Text.alphabetic

def lowercase : CodePoints :=
  (known lowercaseSet).union pharyngeal

def uppercase : CodePoints :=
  known uppercaseSet

def cased : CodePoints :=
  (known casedSet).union pharyngeal

def caseIgnorable : CodePoints :=
  known caseIgnorableSet

def graphemeExtend : CodePoints :=
  known graphemeExtendSet

def whiteSpace : CodePoints :=
  .ofSpans [(9, 13), (0x20, 0x20), (0x85, 0x85), (0xA0, 0xA0), (0x1680, 0x1680), (0x2000, 0x200A),
    (0x2028, 0x2029), (0x202F, 0x202F), (0x205F, 0x205F), (0x3000, 0x3000)]

def joinControl : CodePoints :=
  .range 0x200C 0x200D

/-- The characters of words: alphabetic characters, marks, digits, connectors and joiners. -/
def word : CodePoints :=
  .unionOf [alphabetic, marks, digits, category .connectorPunctuation, joinControl]

end CommandForms.Pattern.Property
