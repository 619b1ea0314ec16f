import CommandForms.Pattern.Property.Basic
import CommandForms.Pattern.Property.Listed
import CommandForms.Pattern.Property.Script

/-!
# Break properties

What text segmentation makes of a character at the borders of graphemes, words and sentences.  Each kind
of border has values in an order of precedence: a character has the first value that claims it.  Values
that claim what is left over have no name in patterns.
-/

namespace CommandForms.Pattern.Property

open CommandForms.Text (CodePoints)

/-- A value of a break property: its names in loose spelling and the characters that it claims. -/
structure BreakValue where
  names : List String
  claims : CodePoints

namespace BreakValue

/-- The characters of a value, by its name: what it claims and no value in front of it does. -/
def find? (name : String) (claimed : CodePoints) : List BreakValue → Option CodePoints
  | [] => none
  | value :: values =>
      if value.names.contains name then some (value.claims.diff claimed)
      else find? name (claimed.union value.claims) values

end BreakValue

def carriageReturn : BreakValue := ⟨["cr"], .single 0xD⟩

def lineFeed : BreakValue := ⟨["lf"], .single 0xA⟩

def joiner : BreakValue := ⟨["zwj"], .single 0x200D⟩

def regionalIndicator : CodePoints := .range 0x1F1E6 0x1F1FF

def emojiModifier : CodePoints := .range 0x1F3FB 0x1F3FF

def prepended : CodePoints :=
  prependedConcatenationMark.union <|
    .ofList [0xD4E, 0x111C2, 0x111C3, 0x113D1, 0x1193F, 0x11941, 0x11A3A, 0x11A84, 0x11A85, 0x11A86,
      0x11A87, 0x11A88, 0x11A89, 0x11D46, 0x11F02]

def separateMarks : CodePoints :=
  .ofSpans [(0x102B, 0x102C), (0x1038, 0x1038), (0x1062, 0x1064), (0x1067, 0x106D), (0x1083, 0x1083),
    (0x1087, 0x108C), (0x108F, 0x108F), (0x109A, 0x109C), (0x1A61, 0x1A61), (0x1A63, 0x1A64),
    (0xAA7B, 0xAA7B), (0xAA7D, 0xAA7D), (0x11720, 0x11721)]

/-- `Default_Ignorable_Code_Point`: what shows nothing where it is not supported. -/
def defaultIgnorable : CodePoints :=
  (CodePoints.unionOf [otherDefaultIgnorable, category .format, variationSelector]).diff <|
    .unionOf [whiteSpace, .range 0xFFF9 0xFFFB, .range 0x13430 0x13440, prependedConcatenationMark]

def openSyllables : CodePoints :=
  .ofSpans ((List.range 399).map fun i => (0xAC00 + 28 * i, 0xAC00 + 28 * i))

/-- The values of `Grapheme_Cluster_Break`. -/
def graphemeBreaks : List BreakValue :=
  [carriageReturn, lineFeed, joiner,
    ⟨["ex", "extend"], graphemeExtend.union emojiModifier⟩,
    ⟨["pp", "prepend"], prepended⟩,
    ⟨["cn", "control"],
      .union (categories [.lineSeparator, .paragraphSeparator, .control, .format, .surrogate])
        (defaultIgnorable.inter (category .unassigned))⟩,
    ⟨["ri", "regionalindicator"], regionalIndicator⟩,
    ⟨["sm", "spacingmark"],
      .union ((category .spacingMark).diff separateMarks) (.ofList [0xE33, 0xEB3])⟩,
    ⟨["l"], .ofSpans [(0x1100, 0x115F), (0xA960, 0xA97C)]⟩,
    ⟨["v"], .ofSpans [(0x1160, 0x11A7), (0xD7B0, 0xD7C6), (0x16D63, 0x16D63), (0x16D67, 0x16D6A)]⟩,
    ⟨["t"], .ofSpans [(0x11A8, 0x11FF), (0xD7CB, 0xD7FB)]⟩,
    ⟨["lv"], openSyllables⟩,
    ⟨["lvt"], .range 0xAC00 0xD7A3⟩]

def unspacedScripts : CodePoints :=
  .unionOf (["Ahom", "Khmr", "Lana", "Laoo", "Mymr", "Tale", "Talu", "Tavt", "Thai", "Hira"].map script)

def letterlike : CodePoints :=
  .ofSpans [(0x2C2, 0x2C5), (0x2D2, 0x2D7), (0x2DE, 0x2DF), (0x2E5, 0x2EB), (0x2ED, 0x2ED),
    (0x2EF, 0x2FF), (0x55A, 0x55C), (0x55E, 0x55E), (0x58A, 0x58A), (0x5F3, 0x5F3), (0x70F, 0x70F),
    (0xA708, 0xA716), (0xA720, 0xA721), (0xA789, 0xA78A), (0xAB5B, 0xAB5B)]

/-- Digits, the Arabic separators of numbers, the Tham digit one, and the signs that stand in front of
numbers. -/
def numeric : CodePoints :=
  .unionOf [digits, .ofList [0x66B, 0x66C, 0x19DA], prependedConcatenationMark.diff (.single 0x70F)]

def wordBreaks : List BreakValue :=
  [carriageReturn, lineFeed,
    ⟨["nl", "newline"], .ofList [0xB, 0xC, 0x85, 0x2028, 0x2029]⟩,
    joiner,
    ⟨["extend"], .unionOf [graphemeExtend, category .spacingMark, emojiModifier]⟩,
    ⟨["ri", "regionalindicator"], regionalIndicator⟩,
    ⟨["nu", "numeric"], numeric.diff (.single 0x66C)⟩,
    ⟨["fo", "format"], (category .format).diff (.ofList [0x70F, 0x200B, 0x200C])⟩,
    ⟨["ka", "katakana"],
      .union (script "Kana") (.ofList [0x3031, 0x3032, 0x3033, 0x3034, 0x3035, 0x309B, 0x309C, 0x30A0,
        0x30FC, 0xFF70])⟩,
    ⟨["hl", "hebrewletter"], (script "Hebr").inter (category .otherLetter)⟩,
    ⟨["dq", "doublequote"], .single 0x22⟩,
    ⟨["sq", "singlequote"], .single 0x27⟩,
    ⟨["mb", "midnumlet"], .ofList [0x2E, 0x2018, 0x2019, 0x2024, 0xFE52, 0xFF07, 0xFF0E]⟩,
    ⟨["ml", "midletter"],
      .ofList [0x3A, 0xB7, 0x387, 0x55F, 0x5F4, 0x2027, 0xFE13, 0xFE55, 0xFF1A]⟩,
    ⟨["mn", "midnum"],
      .ofList [0x2C, 0x3B, 0x37E, 0x589, 0x60C, 0x60D, 0x66C, 0x7F8, 0x2044, 0xFE50, 0xFE54, 0xFF0C,
        0xFF1B]⟩,
    ⟨["ex", "extendnumlet"], (category .connectorPunctuation).union (.single 0x202F)⟩,
    ⟨["wsegspace"], (category .spaceSeparator).diff (.ofList [0xA0, 0x2007, 0x202F])⟩,
    ⟨["le", "aletter"], ((alphabetic.union letterlike).diff ideographic).diff unspacedScripts⟩]

def plainQuotes : CodePoints :=
  .ofSpans [(0x22, 0x22), (0x27, 0x27), (0x275B, 0x2760), (0x2E00, 0x2E01), (0x2E06, 0x2E08),
    (0x2E0B, 0x2E0B), (0x1F676, 0x1F678)]

def sentenceBreaks : List BreakValue :=
  [carriageReturn, lineFeed,
    ⟨["se", "sep"], .ofList [0x85, 0x2028, 0x2029]⟩,
    ⟨["ex", "extend"], .unionOf [graphemeExtend, category .spacingMark, .single 0x200D]⟩,
    ⟨["nu", "numeric"], numeric⟩,
    ⟨["fo", "format"], (category .format).diff (.single 0x200C)⟩,
    ⟨["sp"], whiteSpace⟩,
    ⟨["lo", "lower"], lowercase.diff (.ofSpans [(0x10D0, 0x10FA), (0x10FD, 0x10FF)])⟩,
    ⟨["up", "upper"],
      ((category .titlecaseLetter).union uppercase).diff (.ofSpans [(0x1C90, 0x1CBA), (0x1CBD, 0x1CBF)])⟩,
    ⟨["le", "oletter"], alphabetic.union (.ofList [0xA0, 0x5F3])⟩,
    ⟨["at", "aterm"], .ofList [0x2E, 0x2024, 0xFE52, 0xFF0E]⟩,
    ⟨["sc", "scontinue"],
      .ofList [0x2C, 0x2D, 0x3A, 0x3B, 0x37E, 0x55D, 0x60C, 0x60D, 0x7F8, 0x1802, 0x1808, 0x2013, 0x2014,
        0x3001, 0xFE10, 0xFE11, 0xFE13, 0xFE14, 0xFE31, 0xFE32, 0xFE50, 0xFE51, 0xFE54, 0xFE55, 0xFE58,
        0xFE63, 0xFF0C, 0xFF0D, 0xFF1A, 0xFF1B, 0xFF64]⟩,
    ⟨["st", "sterm"], sentenceTerminal⟩,
    ⟨["cl", "close"],
      .union (categories [.openPunctuation, .closePunctuation, .initialPunctuation, .finalPunctuation])
        plainQuotes⟩]

end CommandForms.Pattern.Property
