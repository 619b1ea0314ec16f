import CommandForms.Pattern.Property.Basic
import CommandForms.Pattern.Property.Listed

/-!
# Derived properties

The binary properties that are made of categories and listed properties: mathematics, identifiers, and
what can start a grapheme.
-/

namespace CommandForms.Pattern.Property

open CommandForms.Text (CodePoints otherAlphabetic otherGraphemeExtend otherLowercase otherUppercase)

def asciiHexDigit : CodePoints :=
  .ofSpans [(0x30, 0x39), (0x41, 0x46), (0x61, 0x66)]

/-- `Hex_Digit`: the digits of ASCII and their full-width forms. -/
def hexDigit : CodePoints :=
  asciiHexDigit.union (.ofSpans [(0xFF10, 0xFF19), (0xFF21, 0xFF26), (0xFF41, 0xFF46)])

def math : CodePoints :=
  .union (category .mathSymbol) otherMath

/-- `Noncharacter_Code_Point`: the last two code points of every plane, and some in between. -/
def noncharacter : CodePoints :=
  .ofSpans ((0xFDD0, 0xFDEF) :: (List.range 17).map fun plane =>
    (0x10000 * plane + 0xFFFE, 0x10000 * plane + 0xFFFF))

def patternWhiteSpace : CodePoints :=
  .ofSpans [(9, 13), (0x20, 0x20), (0x85, 0x85), (0x200E, 0x200F), (0x2028, 0x2029)]

/-- `IDS_Binary_Operator`: describes an ideograph by two parts. -/
def describesByTwo : CodePoints :=
  .ofSpans [(0x2FF0, 0x2FF1), (0x2FF4, 0x2FFD), (0x31EF, 0x31EF)]

/-- `IDS_Trinary_Operator`: describes an ideograph by three parts. -/
def describesByThree : CodePoints :=
  .range 0x2FF2 0x2FF3

/-- `IDS_Unary_Operator`: describes an ideograph by one part. -/
def describesByOne : CodePoints :=
  .range 0x2FFE 0x2FFF

def compatMathContinue : CodePoints :=
  compatMathStart.union <|
    .ofSpans [(0xB2, 0xB3), (0xB9, 0xB9), (0x2070, 0x2070), (0x2074, 0x207E), (0x2080, 0x208E)]

def patternReserved : CodePoints :=
  patternSyntax.union patternWhiteSpace

def idStart : CodePoints :=
  (CodePoints.unionOf [letters, category .letterNumber, otherIdStart]).diff patternReserved

def idContinue : CodePoints :=
  idStart.union <|
    (CodePoints.unionOf [
      categories [.nonspacingMark, .spacingMark, .decimalNumber, .connectorPunctuation],
      otherIdContinue]).diff patternReserved

def splitByCompatibility : CodePoints :=
  .ofSpans [(0x37A, 0x37A), (0x309B, 0x309C), (0xFC5E, 0xFC63), (0xFDFA, 0xFDFB), (0xFE70, 0xFE70),
    (0xFE72, 0xFE72), (0xFE74, 0xFE74), (0xFE76, 0xFE76), (0xFE78, 0xFE78), (0xFE7A, 0xFE7A),
    (0xFE7C, 0xFE7C), (0xFE7E, 0xFE7E)]

def xidStart : CodePoints :=
  (idStart.diff splitByCompatibility).diff (.ofList [0xE33, 0xEB3, 0xFF9E, 0xFF9F])

def xidContinue : CodePoints :=
  idContinue.diff splitByCompatibility

def graphemeBase : CodePoints :=
  CodePoints.compl <| graphemeExtend.union <| categories
    [.control, .format, .surrogate, .privateUse, .unassigned, .lineSeparator, .paragraphSeparator]

def alphabeticByName : CodePoints := known otherAlphabetic

def lowercaseByName : CodePoints := known otherLowercase

def uppercaseByName : CodePoints := known otherUppercase

def graphemeExtendByName : CodePoints := known otherGraphemeExtend

end CommandForms.Pattern.Property
