import CommandForms.Pattern.Property.Age
import CommandForms.Pattern.Property.Break
import CommandForms.Pattern.Property.CaseChange
import CommandForms.Pattern.Property.Derived

/-!
# Names of properties

How patterns name properties.  A name alone is a binary property, a category or a script; a name with a
value is a category, a script, an age or a kind of border.  Case, spaces, hyphens and underscores do not
matter, nor does a leading `is`.
-/

namespace CommandForms.Pattern.Property

open CommandForms.Text (CodePoints GeneralCategory)

/-- The loose spelling of a name: small letters of ASCII without spaces, hyphens and underscores, and
without a leading `is` unless it belongs to the name `isc`. -/
def looseName (cs : List Char) : String :=
  let loose (cs : List Char) : List Char :=
    (cs.filter fun c => c.toNat < 0x80 && !(c == ' ' || c == '-' || c == '_')).map Char.toLower
  match cs with
  | i :: s :: rest =>
      if i.toLower = 'i' ∧ s.toLower = 's' then
        if loose rest = ['c'] then "isc" else String.ofList (loose rest)
      else String.ofList (loose cs)
  | _ => String.ofList (loose cs)

/-- The binary properties, each behind its names in loose spelling. -/
def binaryProperties : List (List String × CodePoints) :=
  [(["ahex", "asciihexdigit"], asciiHexDigit),
    (["alpha", "alphabetic"], alphabetic),
    (["bidic", "bidicontrol"], bidiControl),
    (["bidim", "bidimirrored"], bidiMirrored),
    (["ci", "caseignorable"], caseIgnorable),
    (["cased"], cased),
    (["cwcf", "changeswhencasefolded"], changesWhenCasefolded),
    (["cwcm", "changeswhencasemapped"], changesWhenCasemapped),
    (["cwl", "changeswhenlowercased"], changesWhenLowercased),
    (["cwt", "changeswhentitlecased"], changesWhenTitlecased),
    (["cwu", "changeswhenuppercased"], changesWhenUppercased),
    (["dash"], dash),
    (["di", "defaultignorablecodepoint"], defaultIgnorable),
    (["dep", "deprecated"], deprecated),
    (["dia", "diacritic"], diacritic),
    (["emoji"], emoji),
    (["ecomp", "emojicomponent"], emojiComponent),
    (["emod", "emojimodifier"], emojiModifier),
    (["ebase", "emojimodifierbase"], emojiModifierBase),
    (["epres", "emojipresentation"], emojiPresentation),
    (["extpict", "extendedpictographic"], extendedPictographic),
    (["ext", "extender"], extender),
    (["grbase", "graphemebase"], graphemeBase),
    (["grext", "graphemeextend"], graphemeExtend),
    (["grlink", "graphemelink"], graphemeLink),
    (["hex", "hexdigit"], hexDigit),
    (["hyphen"], hyphen),
    (["idsb", "idsbinaryoperator"], describesByTwo),
    (["idst", "idstrinaryoperator"], describesByThree),
    (["idsu", "idsunaryoperator"], describesByOne),
    (["idcompatmathcontinue"], compatMathContinue),
    (["idcompatmathstart"], compatMathStart),
    (["idc", "idcontinue"], idContinue),
    (["ids", "idstart"], idStart),
    (["ideo", "ideographic"], ideographic),
    (["joinc", "joincontrol"], joinControl),
    (["loe", "logicalorderexception"], logicalOrderException),
    (["lower", "lowercase"], lowercase),
    (["math"], math),
    (["mcm", "modifiercombiningmark"], modifierCombiningMark),
    (["nchar", "noncharactercodepoint"], noncharacter),
    (["oalpha", "otheralphabetic"], alphabeticByName),
    (["odi", "otherdefaultignorablecodepoint"], otherDefaultIgnorable),
    (["ogrext", "othergraphemeextend"], graphemeExtendByName),
    (["oidc", "otheridcontinue"], otherIdContinue),
    (["oids", "otheridstart"], otherIdStart),
    (["olower", "otherlowercase"], lowercaseByName),
    (["omath", "othermath"], otherMath),
    (["oupper", "otheruppercase"], uppercaseByName),
    (["patsyn", "patternsyntax"], patternSyntax),
    (["patws", "patternwhitespace"], patternWhiteSpace),
    (["pcm", "prependedconcatenationmark"], prependedConcatenationMark),
    (["qmark", "quotationmark"], quotationMark),
    (["radical"], radical),
    (["ri", "regionalindicator"], regionalIndicator),
    (["sd", "softdotted"], softDotted),
    (["sterm", "sentenceterminal"], sentenceTerminal),
    (["term", "terminalpunctuation"], terminalPunctuation),
    (["uideo", "unifiedideograph"], unifiedIdeograph),
    (["upper", "uppercase"], uppercase),
    (["vs", "variationselector"], variationSelector),
    (["wspace", "whitespace", "space"], whiteSpace),
    (["xidc", "xidcontinue"], xidContinue),
    (["xids", "xidstart"], xidStart)]

/-- The long names of categories and of their groups, each in front of the short one. -/
def longCategoryNames : List (String × String) :=
  [("letter", "l"), ("uppercaseletter", "lu"), ("lowercaseletter", "ll"), ("titlecaseletter", "lt"),
    ("modifierletter", "lm"), ("otherletter", "lo"), ("casedletter", "lc"), ("mark", "m"),
    ("combiningmark", "m"), ("nonspacingmark", "mn"), ("spacingmark", "mc"), ("enclosingmark", "me"),
    ("number", "n"), ("decimalnumber", "nd"), ("digit", "nd"), ("letternumber", "nl"),
    ("othernumber", "no"), ("punctuation", "p"), ("punct", "p"), ("connectorpunctuation", "pc"),
    ("dashpunctuation", "pd"), ("openpunctuation", "ps"), ("closepunctuation", "pe"),
    ("initialpunctuation", "pi"), ("finalpunctuation", "pf"), ("otherpunctuation", "po"),
    ("symbol", "s"), ("mathsymbol", "sm"), ("currencysymbol", "sc"), ("modifiersymbol", "sk"),
    ("othersymbol", "so"), ("separator", "z"), ("spaceseparator", "zs"), ("lineseparator", "zl"),
    ("paragraphseparator", "zp"), ("other", "c"), ("control", "cc"), ("cntrl", "cc"),
    ("format", "cf"), ("privateuse", "co"), ("unassigned", "cn")]

def categoriesOf (letter : Char) : CodePoints :=
  categories <| (GeneralCategory.names.map (·.2)).filter (·.group == letter)

/-- The characters of a category or of a group of categories, by its short name.  Surrogates are no
characters, so their category has no name. -/
def ofShortName? (name : String) : Option CodePoints :=
  match name.toList with
  | [major] =>
      if ['l', 'm', 'n', 'p', 's', 'z', 'c'].contains major then some (categoriesOf major.toUpper)
      else none
  | ['l', 'c'] => some (categories [.uppercaseLetter, .lowercaseLetter, .titlecaseLetter])
  | ['c', 's'] => none
  | [major, minor] =>
      (GeneralCategory.ofName? (String.ofList [major.toUpper, minor])).map category
  | _ => none

/-- The characters of a category by any of its names, and the three sets that count as categories. -/
def ofCategoryName? (name : String) : Option CodePoints :=
  match name with
  | "any" => some .all
  | "assigned" => some (category .unassigned).compl
  | "ascii" => some (.range 0 0x7F)
  | _ => ofShortName? ((longCategoryNames.lookup name).getD name)

def ofName? (cs : List Char) : Option CodePoints :=
  let name := looseName cs
  match binaryProperties.find? fun (names, _) => names.contains name with
  | some (_, set) => some set
  | none =>
      match ofCategoryName? name with
      | some set => some set
      | none => (scriptOfName? name).map script

def ofValue? (property value : List Char) : Option CodePoints :=
  let value := looseName value
  match looseName property with
  | "gc" | "generalcategory" => ofCategoryName? value
  | "sc" | "script" => (scriptOfName? value).map script
  | "scx" | "scriptextensions" => (scriptOfName? value).map scriptExtension
  | "age" => age? value
  | "gcb" | "graphemeclusterbreak" => BreakValue.find? value .empty graphemeBreaks
  | "wb" | "wordbreak" => BreakValue.find? value .empty wordBreaks
  | "sb" | "sentencebreak" => BreakValue.find? value .empty sentenceBreaks
  | _ => none

end CommandForms.Pattern.Property
