import CommandForms.Text.GeneralCategory

/-!
# Marks and modifiers

The properties `Case_Ignorable` and `Grapheme_Extend`: what is passed over when the case of a neighbour
is looked up, and what extends the character in front of it.
-/

namespace CommandForms.Text

/-- Punctuation that stands inside words: apostrophes, points and colons. -/
def insideWords : CodePoints :=
  .ofList [0x27, 0x2E, 0x3A, 0xB7, 0x387, 0x55F, 0x5F4, 0x2018, 0x2019, 0x2024, 0x2027, 0xFE13, 0xFE52,
    0xFE55, 0xFF07, 0xFF0E, 0xFF1A]

/-- Marks, modifiers, format characters and the punctuation inside words. -/
def caseIgnorableSet : CodePoints :=
  (categorySet fun category => category matches .nonspacingMark | .enclosingMark | .format |
    .modifierLetter | .modifierSymbol).union insideWords

/-- Whether a character is passed over when the case of a neighbour is looked up. -/
def isCaseIgnorable (c : Char) : Bool :=
  caseIgnorableSet.contains c

/-- Spacing marks and other characters that extend the character in front of them all the same. -/
def otherGraphemeExtend : CodePoints :=
  .ofTurns <| String.join [
    "2494 1 24 1 358 1 24 1 102 1 24 1 232 1 1 1 4 2 1 2 9 2 103 1 24 1 119 1 15 1 2357 1 30 1 ",
    "1024 1 5 1 1 1 5 2 101 1 71 2 1048 1 4129 2 31011 1 108 1 21981 2 4640 1 116 1 264 1 14 1 9 ",
    "1 96 1 9 1 2 1 1 3 5 1 224 1 12 1 241 1 262 1 633 1 12 1 1539 1 20654 2 24947 2 6 6 798381 ",
    "96"]

def graphemeExtendSet : CodePoints :=
  (categorySet fun category => category matches .nonspacingMark | .enclosingMark).union
    otherGraphemeExtend

def extendsGrapheme (c : Char) : Bool :=
  graphemeExtendSet.contains c

end CommandForms.Text
