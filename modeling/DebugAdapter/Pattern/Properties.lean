import DebugAdapter.Unicode.Age
import DebugAdapter.Unicode.Boundary
import DebugAdapter.Unicode.Folding

/-!
# Properties that patterns name

The classes of characters that a pattern names by a property, as they are in
version 16 of the standard. Names are compared without case, blanks,
underscores and hyphens, and without a leading `is`.
-/

namespace DebugAdapter.Pattern

open Unicode

/-- The edition that patterns follow. -/
def edition : Edition := .sixteen

def ascii : CodeSet := .range 0 0x7f

def innerSigns : CodeSet :=
  .unionAll (["mb", "ml", "sq"].map fun kind => (wordKinds.value? kind).getD .empty)

/-- Characters that do not count where the case of their neighbours is looked at. -/
def caseIgnorable : CodeSet :=
  .unionAll [innerSigns, edition.categories [.nonspacingMark, .enclosingMark, .format,
    .modifierLetter, .modifierSymbol]]

def idStart : CodeSet :=
  (.unionAll [edition.letters, edition.category .letterNumber, otherIdStart] : CodeSet) \
    (patternSyntax ∪ patternWhiteSpace)

def idContinue : CodeSet :=
  .unionAll [idStart, otherIdContinue, edition.categories [.nonspacingMark, .spacingMark,
    .decimalNumber, .connectorPunctuation]]

def digits : CodeSet := edition.category .decimalNumber

def wordCharacters : CodeSet :=
  .unionAll [edition.alphabetic, edition.marks, digits, edition.category .connectorPunctuation,
    joinControls]

def binaryProperty? (name : String) : Option CodeSet :=
  match name with
  | "ahex" | "asciihexdigit" => some (hexDigits ∩ ascii)
  | "alpha" | "alphabetic" => some edition.alphabetic
  | "bidic" | "bidicontrol" => some bidiControls
  | "bidim" | "bidimirrored" => some bidiMirrored
  | "caseignorable" | "ci" => some caseIgnorable
  | "cased" => some edition.cased
  | "changeswhencasefolded" | "cwcf" => some changesFolded
  | "changeswhencasemapped" | "cwcm" => some changesMapped
  | "changeswhenlowercased" | "cwl" => some edition.changesLowered
  | "changeswhentitlecased" | "cwt" => some edition.changesTitled
  | "changeswhenuppercased" | "cwu" => some edition.changesUppered
  | "dash" => some dashes
  | "defaultignorablecodepoint" | "di" => some edition.ignorable
  | "dep" | "deprecated" => some deprecated
  | "dia" | "diacritic" => some diacritics
  | "emoji" => some emoji
  | "ecomp" | "emojicomponent" => some emojiComponents
  | "emod" | "emojimodifier" => some emojiModifiers
  | "ebase" | "emojimodifierbase" => some emojiModifierBases
  | "emojipresentation" | "epres" => some emojiPresentation
  | "extendedpictographic" | "extpict" => some pictographs
  | "ext" | "extender" => some extenders
  | "graphemebase" | "grbase" => some edition.graphemeBase
  | "graphemeextend" | "grext" => some edition.graphemeExtend
  | "graphemelink" | "grlink" => some graphemeLinks
  | "hex" | "hexdigit" => some hexDigits
  | "hyphen" => some hyphens
  | "idsb" | "idsbinaryoperator" => some idsBinary
  | "idst" | "idstrinaryoperator" => some idsTrinary
  | "idsu" | "idsunaryoperator" => some idsUnary
  | "idcompatmathcontinue" => some compatMathContinue
  | "idcompatmathstart" => some compatMathStart
  | "idc" | "idcontinue" => some idContinue
  | "ids" | "idstart" => some idStart
  | "ideo" | "ideographic" => some ideographs
  | "joinc" | "joincontrol" => some joinControls
  | "loe" | "logicalorderexception" => some logicalOrderExceptions
  | "lower" | "lowercase" => some edition.lowercase
  | "math" => some (edition.category .mathSymbol ∪ otherMath)
  | "mcm" | "modifiercombiningmark" => some modifierCombiningMarks
  | "nchar" | "noncharactercodepoint" => some noncharacters
  | "oalpha" | "otheralphabetic" => some (edition.known otherAlphabetic)
  | "odi" | "otherdefaultignorablecodepoint" => some otherIgnorable
  | "ogrext" | "othergraphemeextend" => some (edition.known otherGraphemeExtend)
  | "oidc" | "otheridcontinue" => some otherIdContinue
  | "oids" | "otheridstart" => some otherIdStart
  | "olower" | "otherlowercase" => some (edition.known otherLowercase)
  | "omath" | "othermath" => some otherMath
  | "otheruppercase" | "oupper" => some (edition.known otherUppercase)
  | "patsyn" | "patternsyntax" => some patternSyntax
  | "patternwhitespace" | "patws" => some patternWhiteSpace
  | "pcm" | "prependedconcatenationmark" => some prependedMarks
  | "qmark" | "quotationmark" => some quotationMarks
  | "radical" => some radicals
  | "regionalindicator" | "ri" => some regionalIndicators
  | "sentenceterminal" | "sterm" => some sentenceTerminals
  | "sd" | "softdotted" => some softDotted
  | "term" | "terminalpunctuation" => some terminals
  | "uideo" | "unifiedideograph" => some unifiedIdeographs
  | "upper" | "uppercase" => some edition.uppercase
  | "variationselector" | "vs" => some variationSelectors
  | "space" | "whitespace" | "wspace" => some whiteSpace
  | "xidc" | "xidcontinue" => some (idContinue \ unstableIdContinue)
  | "xids" | "xidstart" => some (idStart \ unstableIdStart)
  | _ => none

def category? (name : String) : Option CodeSet :=
  match name with
  | "any" => some .all
  | "ascii" => some ascii
  | "assigned" => some edition.unassigned.complement
  | "casedletter" | "lc" => some edition.casedLetters
  | "closepunctuation" | "pe" => some (edition.category .closePunctuation)
  | "connectorpunctuation" | "pc" => some (edition.category .connectorPunctuation)
  | "cc" | "cntrl" | "control" => some (edition.category .control)
  | "currencysymbol" | "sc" => some (edition.category .currencySymbol)
  | "dashpunctuation" | "pd" => some (edition.category .dashPunctuation)
  | "decimalnumber" | "digit" | "nd" => some (edition.category .decimalNumber)
  | "enclosingmark" | "me" => some (edition.category .enclosingMark)
  | "finalpunctuation" | "pf" => some (edition.category .finalPunctuation)
  | "cf" | "format" => some (edition.category .format)
  | "initialpunctuation" | "pi" => some (edition.category .initialPunctuation)
  | "l" | "letter" => some edition.letters
  | "letternumber" | "nl" => some (edition.category .letterNumber)
  | "lineseparator" | "zl" => some (edition.category .lineSeparator)
  | "ll" | "lowercaseletter" => some (edition.category .lowercaseLetter)
  | "combiningmark" | "m" | "mark" => some edition.marks
  | "mathsymbol" | "sm" => some (edition.category .mathSymbol)
  | "lm" | "modifierletter" => some (edition.category .modifierLetter)
  | "modifiersymbol" | "sk" => some (edition.category .modifierSymbol)
  | "mn" | "nonspacingmark" => some (edition.category .nonspacingMark)
  | "n" | "number" => some edition.numbers
  | "openpunctuation" | "ps" => some (edition.category .openPunctuation)
  | "c" | "other" => some edition.others
  | "lo" | "otherletter" => some (edition.category .otherLetter)
  | "no" | "othernumber" => some (edition.category .otherNumber)
  | "otherpunctuation" | "po" => some (edition.category .otherPunctuation)
  | "othersymbol" | "so" => some (edition.category .otherSymbol)
  | "paragraphseparator" | "zp" => some (edition.category .paragraphSeparator)
  | "co" | "privateuse" => some (edition.category .privateUse)
  | "p" | "punct" | "punctuation" => some edition.punctuation
  | "separator" | "z" => some edition.separators
  | "spaceseparator" | "zs" => some (edition.category .spaceSeparator)
  | "mc" | "spacingmark" => some (edition.category .spacingMark)
  | "s" | "symbol" => some edition.symbols
  | "lt" | "titlecaseletter" => some (edition.category .titlecaseLetter)
  | "cn" | "unassigned" => some edition.unassigned
  | "lu" | "uppercaseletter" => some (edition.category .uppercaseLetter)
  | _ => none

/-- A category and a script without characters. -/
def isEmptyClass (name : String) : Bool :=
  ["cs", "surrogate", "hrkt", "katakanaorhiragana", "unknown", "zzzz"].contains name

/-- Properties with values that no class can be made of. -/
def otherProperties : List String := [
  "bc", "bidiclass", "bidimirroringglyph", "bidipairedbracket", "bidipairedbrackettype", "blk",
  "block", "bmg", "bpb", "bpt", "canonicalcombiningclass", "casefolding", "ccc", "ce", "cf",
  "changeswhennfkccasefolded", "cjkaccountingnumeric", "cjkcompatibilityvariant", "cjkiicore",
  "cjkirggsource", "cjkirghsource", "cjkirgjsource", "cjkirgkpsource", "cjkirgksource",
  "cjkirgmsource", "cjkirgssource", "cjkirgtsource", "cjkirguksource", "cjkirgusource",
  "cjkirgvsource", "cjkothernumeric", "cjkprimarynumeric", "cjkrsunicode", "compex",
  "compositionexclusion", "cwkcf", "decompositionmapping", "decompositiontype", "dm", "dt", "ea",
  "eastasianwidth", "equideo", "equivalentunifiedideograph", "expandsonnfc", "expandsonnfd",
  "expandsonnfkc", "expandsonnfkd", "fcnfkc", "fcnfkcclosure", "fullcompositionexclusion",
  "hangulsyllabletype", "hst", "incb", "indicconjunctbreak", "indicpositionalcategory",
  "indicsyllabiccategory", "inpc", "insc", "isc", "jamoshortname", "jg", "joininggroup",
  "joiningtype", "jsn", "jt", "kaccountingnumeric", "kcompatibilityvariant", "kehcat", "kehdesc",
  "kehhg", "kehifao", "kehjsesh", "kehnomirror", "kehnorotate", "kiicore", "kirggsource",
  "kirghsource", "kirgjsource", "kirgkpsource", "kirgksource", "kirgmsource", "kirgssource",
  "kirgtsource", "kirguksource", "kirgusource", "kirgvsource", "kothernumeric",
  "kprimarynumeric", "krsunicode", "lb", "lc", "linebreak", "lowercasemapping", "na", "na1",
  "name", "namealias", "nfcqc", "nfcquickcheck", "nfdqc", "nfdquickcheck", "nfkccasefold",
  "nfkccf", "nfkcqc", "nfkcquickcheck", "nfkcscf", "nfkcsimplecasefold", "nfkdqc",
  "nfkdquickcheck", "nt", "numerictype", "numericvalue", "nv", "ocomment", "scf", "sfc",
  "simplecasefolding", "simplelowercasemapping", "simpletitlecasemapping",
  "simpleuppercasemapping", "slc", "stc", "suc", "tc", "titlecasemapping", "uc", "unicode1name",
  "unicoderadicalstroke", "uppercasemapping", "urs", "verticalorientation", "vo", "xonfc",
  "xonfd", "xonfkc", "xonfkd"]

def normalName (name : List Char) : String :=
  let hasIs := (name.take 2).map Char.toLower = ['i', 's']
  let rest := (if hasIs then name.drop 2 else name).filter fun c =>
    c ≠ ' ' && c ≠ '_' && c ≠ '-' && c.toNat < 0x80
  let normal := rest.map Char.toLower
  if hasIs && normal = ['c'] then "isc" else String.ofList normal

inductive PropertyFault where
  | unknownProperty
  | unknownValue
  deriving Repr, DecidableEq

def values? (property : String) : Option (String → Option CodeSet) :=
  match property with
  | "gc" | "generalcategory" => some category?
  | "sc" | "script" => some script?
  | "scx" | "scriptextensions" => some scriptExtensions?
  | "age" => some age?
  | "gcb" | "graphemeclusterbreak" => some edition.graphemeKind?
  | "sb" | "sentencebreak" => some edition.sentenceKind?
  | "wb" | "wordbreak" => some edition.wordKind?
  | _ => none

/-- Is a property of that name known? Three short names belong to categories. -/
def isProperty (name : String) : Bool :=
  (binaryProperty? name).isSome || otherProperties.contains name || (values? name).isSome

def namedClass (name : List Char) : Except PropertyFault CodeSet :=
  let name := normalName name
  let isCategory := name = "cf" || name = "sc" || name = "lc"
  if !isCategory && isProperty name then
    (binaryProperty? name).elim (.error .unknownProperty) .ok
  else match category? name <|> script? name with
    | some class' => .ok class'
    | none => .error (if isEmptyClass name then .unknownValue else .unknownProperty)

def valueClass (property value : List Char) : Except PropertyFault CodeSet :=
  let property := normalName property
  if !isProperty property then .error .unknownProperty
  else ((values? property).bind fun find => find (normalName value)).elim
    (.error .unknownValue) .ok

end DebugAdapter.Pattern
