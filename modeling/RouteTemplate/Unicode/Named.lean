import RouteTemplate.Unicode.Age
import RouteTemplate.Unicode.Casing
import RouteTemplate.Unicode.ScriptExtension

/-!
Sets of characters by the names that patterns give them: a property, a general category, a script or
a value of some other property. Case, blanks, hyphens and underscores in a name make no difference, nor does a leading `is`.
-/

namespace RouteTemplate.Unicode

open Category (charsIn)

/-! ### Names of categories -/

/-- The names of each category and group of categories, in lower case. -/
def categoryNames : List (List String × (Category → Bool)) :=
  [(["c", "other"], Category.isOther),
   (["cc", "control", "cntrl"], (· == .cc)),
   (["cf", "format"], (· == .cf)),
   (["cn", "unassigned"], (· == .cn)),
   (["co", "privateuse"], (· == .co)),
   (["l", "letter"], Category.isLetter),
   (["lc", "casedletter"], Category.isCasedLetter),
   (["ll", "lowercaseletter"], (· == .ll)),
   (["lm", "modifierletter"], (· == .lm)),
   (["lo", "otherletter"], (· == .lo)),
   (["lt", "titlecaseletter"], (· == .lt)),
   (["lu", "uppercaseletter"], (· == .lu)),
   (["m", "mark", "combiningmark"], Category.isMark),
   (["mc", "spacingmark"], (· == .mc)),
   (["me", "enclosingmark"], (· == .me)),
   (["mn", "nonspacingmark"], (· == .mn)),
   (["n", "number"], Category.isNumber),
   (["nd", "decimalnumber", "digit"], (· == .nd)),
   (["nl", "letternumber"], (· == .nl)),
   (["no", "othernumber"], (· == .no)),
   (["p", "punctuation", "punct"], Category.isPunctuation),
   (["pc", "connectorpunctuation"], (· == .pc)),
   (["pd", "dashpunctuation"], (· == .pd)),
   (["pe", "closepunctuation"], (· == .pe)),
   (["pf", "finalpunctuation"], (· == .pf)),
   (["pi", "initialpunctuation"], (· == .pi)),
   (["po", "otherpunctuation"], (· == .po)),
   (["ps", "openpunctuation"], (· == .ps)),
   (["s", "symbol"], Category.isSymbol),
   (["sc", "currencysymbol"], (· == .sc)),
   (["sk", "modifiersymbol"], (· == .sk)),
   (["sm", "mathsymbol"], (· == .sm)),
   (["so", "othersymbol"], (· == .so)),
   (["z", "separator"], Category.isSeparator),
   (["zl", "lineseparator"], (· == .zl)),
   (["zp", "paragraphseparator"], (· == .zp)),
   (["zs", "spaceseparator"], (· == .zs))]

/-- The characters of the category of that name, or of one of the three names that stand for all
characters, the assigned ones and the ASCII ones. -/
def categoryNamed? (name : String) : Option CharSet :=
  match name with
  | "any" => some .all
  | "assigned" => some (charsIn (· == .cn)).compl
  | "ascii" => some ⟨[⟨0, 0x7F⟩]⟩
  | _ => (categoryNames.find? fun p => p.1.contains name).map fun p => charsIn p.2

/-! ### Properties that hold or fail -/

/-- The names of each property, in lower case, and the characters that have it. -/
def properties : List (List String × CharSet) :=
  [(["asciihexdigit", "ahex"], asciiHexDigit),
   (["alphabetic", "alpha"], alphabetic),
   (["bidicontrol", "bidic"], bidiControl),
   (["bidimirrored", "bidim"], bidiMirrored),
   (["caseignorable", "ci"], caseIgnorable),
   (["cased"], cased),
   (["changeswhencasefolded", "cwcf"], changesWhenCasefolded),
   (["changeswhencasemapped", "cwcm"], changesWhenCasemapped),
   (["changeswhenlowercased", "cwl"], changesWhenLowercased),
   (["changeswhentitlecased", "cwt"], changesWhenTitlecased),
   (["changeswhenuppercased", "cwu"], changesWhenUppercased),
   (["dash"], dash),
   (["defaultignorablecodepoint", "di"], defaultIgnorable),
   (["deprecated", "dep"], deprecatedChars),
   (["diacritic", "dia"], diacritic),
   (["emoji"], emoji),
   (["emojicomponent", "ecomp"], emojiComponent),
   (["emojimodifier", "emod"], emojiModifier),
   (["emojimodifierbase", "ebase"], emojiModifierBase),
   (["emojipresentation", "epres"], emojiPresentation),
   (["extendedpictographic", "extpict"], extendedPictographic),
   (["extender", "ext"], extender),
   (["graphemebase", "grbase"], graphemeBase),
   (["graphemeextend", "grext"], graphemeExtend),
   (["graphemelink", "grlink"], graphemeLink),
   (["hexdigit", "hex"], hexDigit),
   (["hyphen"], hyphen),
   (["idsbinaryoperator", "idsb"], idsBinaryOperator),
   (["idstrinaryoperator", "idst"], idsTrinaryOperator),
   (["idsunaryoperator", "idsu"], idsUnaryOperator),
   (["idcompatmathcontinue"], idCompatMathContinue),
   (["idcompatmathstart"], idCompatMathStart),
   (["idcontinue", "idc"], idContinue),
   (["idstart", "ids"], idStart),
   (["ideographic", "ideo"], ideographic),
   (["joincontrol", "joinc"], joinControl),
   (["logicalorderexception", "loe"], logicalOrderException),
   (["lowercase", "lower"], lowercase),
   (["math"], math),
   (["modifiercombiningmark", "mcm"], modifierCombiningMark),
   (["noncharactercodepoint", "nchar"], noncharacter),
   (["otheralphabetic", "oalpha"], otherAlphabetic),
   (["otherdefaultignorablecodepoint", "odi"], otherDefaultIgnorable),
   (["othergraphemeextend", "ogrext"], otherGraphemeExtend),
   (["otheridcontinue", "oidc"], otherIdContinue),
   (["otheridstart", "oids"], otherIdStart),
   (["otherlowercase", "olower"], otherLowercase),
   (["othermath", "omath"], otherMath),
   (["otheruppercase", "oupper"], otherUppercase),
   (["patternsyntax", "patsyn"], patternSyntax),
   (["patternwhitespace", "patws"], patternWhiteSpace),
   (["prependedconcatenationmark", "pcm"], prependedMark),
   (["quotationmark", "qmark"], quotationMark),
   (["radical"], radical),
   (["regionalindicator", "ri"], regionalIndicator),
   (["sentenceterminal", "sterm"], sentenceTerminal),
   (["softdotted", "sd"], softDotted),
   (["terminalpunctuation", "term"], terminalPunctuation),
   (["unifiedideograph", "uideo"], unifiedIdeograph),
   (["uppercase", "upper"], uppercase),
   (["variationselector", "vs"], variationSelector),
   (["whitespace", "wspace", "space"], whiteSpace),
   (["xidcontinue", "xidc"], xidContinue),
   (["xidstart", "xids"], xidStart)]

/-- The set that a table gives under a name. -/
def entryNamed? (name : String) (table : List (List String × CharSet)) : Option CharSet :=
  (table.find? fun p => p.1.contains name).map (·.2)

/-! ### Look-up -/

/-- A name without the differences that do not count. A name that would be left as `c` by dropping
its `is` keeps it. -/
def plainName (s : List Char) : List Char :=
  let keep (s : List Char) : List Char :=
    (s.filter fun c => c.toNat < 128 && c != ' ' && c != '_' && c != '-').map Char.toLower
  match s with
  | i :: s :: rest =>
    if i.toLower = 'i' ∧ s.toLower = 's' then
      if keep rest = ['c'] then ['i', 's', 'c'] else keep rest
    else keep (i :: s :: rest)
  | s => keep s

/-- How a pattern asks for a set: by one name, or by the name of a property and a value of it. -/
inductive PropertyQuery where
  | named (name : List Char)
  | valued (property value : List Char)
  deriving DecidableEq, Repr, Inhabited

/-- The characters that have a value of a property, by the names of both. -/
def valueNamed? (property value : String) : Option CharSet :=
  match property with
  | "generalcategory" | "gc" => categoryNamed? value
  | "script" | "sc" => Script.named? value
  | "scriptextensions" | "scx" => Script.extensionNamed? value
  | "age" => Age.named? value
  | "graphemeclusterbreak" | "gcb" => entryNamed? value GraphemeBreak.classes
  | "wordbreak" | "wb" => entryNamed? value WordBreak.classes
  | "sentencebreak" | "sb" => entryNamed? value SentenceBreak.classes
  | _ => none

/-- The characters that a query asks for. Three names belong to a category before a property. -/
def PropertyQuery.set? : PropertyQuery → Option CharSet
  | .named name =>
    let name := String.ofList (plainName name)
    let property :=
      if ["cf", "sc", "lc"].contains name then none else entryNamed? name properties
    property <|> categoryNamed? name <|> Script.named? name
  | .valued property value =>
    valueNamed? (String.ofList (plainName property)) (String.ofList (plainName value))

end RouteTemplate.Unicode
