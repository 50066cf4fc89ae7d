/-!
# Properties of characters

A pattern names a class of characters by a property that Unicode gives them: a general category, a
script or a binary property by its name alone, a category or a script also as the value of the
property it belongs to. Every name may be written in full or abbreviated, and without regard to
case, blanks, underscores, dashes and a leading `is`.
-/

namespace MessageSchema.Property

/-- The names of the general categories, as they are compared. -/
def categories : List String := [
  "any", "assigned", "ascii", "other", "c", "control", "cc", "cntrl", "format", "cf", "unassigned",
  "cn", "privateuse", "co", "letter", "l", "casedletter", "lc", "lowercaseletter", "ll",
  "modifierletter", "lm", "otherletter", "lo", "titlecaseletter", "lt", "uppercaseletter", "lu",
  "mark", "m", "combiningmark", "spacingmark", "mc", "enclosingmark", "me", "nonspacingmark", "mn",
  "number", "n", "decimalnumber", "nd", "digit", "letternumber", "nl", "othernumber", "no",
  "punctuation", "p", "punct", "connectorpunctuation", "pc", "dashpunctuation", "pd",
  "closepunctuation", "pe", "finalpunctuation", "pf", "initialpunctuation", "pi",
  "otherpunctuation", "po", "openpunctuation", "ps", "symbol", "s", "currencysymbol", "sc",
  "modifiersymbol", "sk", "mathsymbol", "sm", "othersymbol", "so", "separator", "z",
  "lineseparator", "zl", "paragraphseparator", "zp", "spaceseparator", "zs"]

/-- The names of the binary properties, as they are compared. -/
def binary : List String := [
  "asciihexdigit", "ahex", "alphabetic", "alpha", "bidicontrol", "bidic", "bidimirrored", "bidim",
  "caseignorable", "ci", "cased", "changeswhencasefolded", "cwcf", "changeswhencasemapped", "cwcm",
  "changeswhenlowercased", "cwl", "changeswhentitlecased", "cwt", "changeswhenuppercased", "cwu",
  "dash", "defaultignorablecodepoint", "di", "deprecated", "dep", "diacritic", "dia", "emoji",
  "emojicomponent", "ecomp", "emojimodifier", "emod", "emojimodifierbase", "ebase",
  "emojipresentation", "epres", "extendedpictographic", "extpict", "extender", "ext",
  "graphemebase", "grbase", "graphemeextend", "grext", "graphemelink", "grlink", "hexdigit", "hex",
  "hyphen", "idsbinaryoperator", "idsb", "idstrinaryoperator", "idst", "idsunaryoperator", "idsu",
  "idcompatmathcontinue", "idcompatmathstart", "idcontinue", "idc", "idstart", "ids", "ideographic",
  "ideo", "joincontrol", "joinc", "logicalorderexception", "loe", "lowercase", "lower", "math",
  "modifiercombiningmark", "mcm", "noncharactercodepoint", "nchar", "otheralphabetic", "oalpha",
  "otherdefaultignorablecodepoint", "odi", "othergraphemeextend", "ogrext", "otheridcontinue",
  "oidc", "otheridstart", "oids", "otherlowercase", "olower", "othermath", "omath",
  "otheruppercase", "oupper", "patternsyntax", "patsyn", "patternwhitespace", "patws",
  "prependedconcatenationmark", "pcm", "quotationmark", "qmark", "radical", "regionalindicator",
  "ri", "sentenceterminal", "sterm", "softdotted", "sd", "terminalpunctuation", "term",
  "unifiedideograph", "uideo", "uppercase", "upper", "variationselector", "vs", "whitespace",
  "wspace", "space", "xidcontinue", "xidc", "xidstart", "xids"]

/-- The names of the scripts, as they are compared. -/
def scripts : List String := [
  "adlm", "adlam", "aghb", "caucasianalbanian", "ahom", "arab", "arabic", "armi", "imperialaramaic",
  "armn", "armenian", "avst", "avestan", "bali", "balinese", "bamu", "bamum", "bass", "bassavah",
  "batk", "batak", "beng", "bengali", "bhks", "bhaiksuki", "bopo", "bopomofo", "brah", "brahmi",
  "brai", "braille", "bugi", "buginese", "buhd", "buhid", "cakm", "chakma", "cans",
  "canadianaboriginal", "cari", "carian", "cham", "cher", "cherokee", "chrs", "chorasmian", "copt",
  "coptic", "qaac", "cpmn", "cyprominoan", "cprt", "cypriot", "cyrl", "cyrillic", "deva",
  "devanagari", "diak", "divesakuru", "dogr", "dogra", "dsrt", "deseret", "dupl", "duployan",
  "egyp", "egyptianhieroglyphs", "elba", "elbasan", "elym", "elymaic", "ethi", "ethiopic", "geor",
  "georgian", "glag", "glagolitic", "gong", "gunjalagondi", "gonm", "masaramgondi", "goth",
  "gothic", "gran", "grantha", "grek", "greek", "gujr", "gujarati", "guru", "gurmukhi", "hang",
  "hangul", "hani", "han", "hano", "hanunoo", "hatr", "hatran", "hebr", "hebrew", "hira",
  "hiragana", "hluw", "anatolianhieroglyphs", "hmng", "pahawhhmong", "hmnp", "nyiakengpuachuehmong",
  "hung", "oldhungarian", "ital", "olditalic", "java", "javanese", "kali", "kayahli", "kana",
  "katakana", "kawi", "khar", "kharoshthi", "khmr", "khmer", "khoj", "khojki", "kits",
  "khitansmallscript", "knda", "kannada", "kthi", "kaithi", "lana", "taitham", "laoo", "lao",
  "latn", "latin", "lepc", "lepcha", "limb", "limbu", "lina", "lineara", "linb", "linearb", "lisu",
  "lyci", "lycian", "lydi", "lydian", "mahj", "mahajani", "maka", "makasar", "mand", "mandaic",
  "mani", "manichaean", "marc", "marchen", "medf", "medefaidrin", "mend", "mendekikakui", "merc",
  "meroiticcursive", "mero", "meroitichieroglyphs", "mlym", "malayalam", "modi", "mong",
  "mongolian", "mroo", "mro", "mtei", "meeteimayek", "mult", "multani", "mymr", "myanmar", "nagm",
  "nagmundari", "nand", "nandinagari", "narb", "oldnortharabian", "nbat", "nabataean", "newa",
  "nkoo", "nko", "nshu", "nushu", "ogam", "ogham", "olck", "olchiki", "orkh", "oldturkic", "orya",
  "oriya", "osge", "osage", "osma", "osmanya", "ougr", "olduyghur", "palm", "palmyrene", "pauc",
  "paucinhau", "perm", "oldpermic", "phag", "phagspa", "phli", "inscriptionalpahlavi", "phlp",
  "psalterpahlavi", "phnx", "phoenician", "plrd", "miao", "prti", "inscriptionalparthian", "rjng",
  "rejang", "rohg", "hanifirohingya", "runr", "runic", "samr", "samaritan", "sarb",
  "oldsoutharabian", "saur", "saurashtra", "sgnw", "signwriting", "shaw", "shavian", "shrd",
  "sharada", "sidd", "siddham", "sind", "khudawadi", "sinh", "sinhala", "sogd", "sogdian", "sogo",
  "oldsogdian", "sora", "sorasompeng", "soyo", "soyombo", "sund", "sundanese", "sylo",
  "sylotinagri", "syrc", "syriac", "tagb", "tagbanwa", "takr", "takri", "tale", "taile", "talu",
  "newtailue", "taml", "tamil", "tang", "tangut", "tavt", "taiviet", "telu", "telugu", "tfng",
  "tifinagh", "tglg", "tagalog", "thaa", "thaana", "thai", "tibt", "tibetan", "tirh", "tirhuta",
  "tnsa", "tangsa", "toto", "ugar", "ugaritic", "vaii", "vai", "vith", "vithkuqi", "wara",
  "warangciti", "wcho", "wancho", "xpeo", "oldpersian", "xsux", "cuneiform", "yezi", "yezidi",
  "yiii", "yi", "zanb", "zanabazarsquare", "zinh", "inherited", "qaai", "zyyy", "common", "zzzz",
  "unknown", "gara", "garay", "gukh", "gurungkhema", "krai", "kiratrai", "onao", "olonal", "sunu",
  "sunuwar", "todr", "todhri", "tutg", "tulutigalari"]

/-- A name without the signs that do not count, in lower case. -/
def plain (name : List Char) : List Char :=
  (name.filter fun c => c ≠ ' ' && c ≠ '_' && c ≠ '-' && c.toNat < 128).map Char.toLower

/-- A name as it is compared. The name `isc` stands for a property of its own. -/
def canonical (name : List Char) : String :=
  match name with
  | 'i' :: 's' :: rest | 'I' :: 'S' :: rest | 'i' :: 'S' :: rest | 'I' :: 's' :: rest =>
    if plain rest = ['c'] then "isc" else String.ofList (plain rest)
  | _ => String.ofList (plain name)

/-- What stands before and after the first place of a separator. -/
def splitAt? (separator : List Char) : List Char → Option (List Char × List Char)
  | [] => none
  | c :: rest =>
    if separator.isPrefixOf (c :: rest) then some ([], (c :: rest).drop separator.length)
    else (splitAt? separator rest).map fun (before, after) => (c :: before, after)

/-- The property and the value of a name with a value. -/
def withValue? (name : List Char) : Option (List Char × List Char) :=
  ((splitAt? ['!', '='] name).or (splitAt? [':'] name)).or (splitAt? ['='] name)

/-- Whether there is a property of a name, or a value of a property. -/
def isKnown (name : List Char) : Bool :=
  match withValue? name with
  | none =>
    let name := canonical name
    binary.contains name || categories.contains name || scripts.contains name
  | some (property, value) =>
    let property := canonical property
    let value := canonical value
    if property = "gc" ∨ property = "generalcategory" then categories.contains value
    else if property = "sc" ∨ property = "script" ∨ property = "scx" ∨
        property = "scriptextensions" then scripts.contains value
    else false

end MessageSchema.Property
