import BluetoothDirectory.Pattern.CharSet

/-!
# Named properties of characters

The properties that a pattern can ask for by name: general categories, scripts, and yes-or-no
properties, and values of a few properties given with their name. Names are compared without case,
blanks, hyphens and underscores, and without the word `is` in front.

General categories are complete. Of a script or another property only those members are kept that
are ASCII or fold to an ASCII letter, because no other character is ever compared.
-/

namespace BluetoothDirectory.Pattern.Property

/-- Drops what does not count in a name. -/
def squeeze (cs : List Char) : List Char :=
  (cs.filter fun c => c != ' ' && c != '_' && c != '-' && c.toNat ≤ 0x7F).map Char.toLower

/-- A name in the form in which names are compared. The name `isc` is kept whole, for it would
otherwise be taken for another. -/
def normalize (name : List Char) : String :=
  match name with
  | i :: s :: rest =>
    if i.toLower = 'i' && s.toLower = 's' then
      let rest := squeeze rest
      if rest = ['c'] then "isc" else String.ofList rest
    else String.ofList (squeeze name)
  | _ => String.ofList (squeeze name)

/-- A property's names, and ranges of its members. -/
abbrev Entry := List String × List (Nat × Nat)

/-- The members of the entry with a name. -/
def find? (entries : List Entry) (name : String) : Option CharSet :=
  (entries.find? fun e => e.1.contains name).map fun e => CharSet.ofRanges e.2

/-- The names of the general categories and of groups of them. -/
def categoryNames : List (List String × (Unicode.Category → Bool)) :=
  [(["lu", "uppercaseletter"], (· == .Lu)),
   (["ll", "lowercaseletter"], (· == .Ll)),
   (["lt", "titlecaseletter"], (· == .Lt)),
   (["lm", "modifierletter"], (· == .Lm)),
   (["lo", "otherletter"], (· == .Lo)),
   (["lc", "casedletter"], fun c => c == .Lu || c == .Ll || c == .Lt),
   (["l", "letter"], fun c => c.isLetter && c != .Nl),
   (["mn", "nonspacingmark"], (· == .Mn)),
   (["mc", "spacingmark"], (· == .Mc)),
   (["me", "enclosingmark"], (· == .Me)),
   (["m", "mark", "combiningmark"], Unicode.Category.isMark),
   (["nd", "decimalnumber", "digit"], (· == .Nd)),
   (["nl", "letternumber"], (· == .Nl)),
   (["no", "othernumber"], (· == .No)),
   (["n", "number"], Unicode.Category.isNumber),
   (["pc", "connectorpunctuation"], (· == .Pc)),
   (["pd", "dashpunctuation"], (· == .Pd)),
   (["ps", "openpunctuation"], (· == .Ps)),
   (["pe", "closepunctuation"], (· == .Pe)),
   (["pi", "initialpunctuation"], (· == .Pi)),
   (["pf", "finalpunctuation"], (· == .Pf)),
   (["po", "otherpunctuation"], (· == .Po)),
   (["p", "punctuation", "punct"], Unicode.Category.isPunctuation),
   (["sm", "mathsymbol"], (· == .Sm)),
   (["sc", "currencysymbol"], (· == .Sc)),
   (["sk", "modifiersymbol"], (· == .Sk)),
   (["so", "othersymbol"], (· == .So)),
   (["s", "symbol"], Unicode.Category.isSymbol),
   (["zs", "spaceseparator"], (· == .Zs)),
   (["zl", "lineseparator"], (· == .Zl)),
   (["zp", "paragraphseparator"], (· == .Zp)),
   (["z", "separator"], fun c => c == .Zs || c == .Zl || c == .Zp),
   (["cc", "control", "cntrl"], (· == .Cc)),
   (["cf", "format"], (· == .Cf)),
   (["co", "privateuse"], (· == .Co)),
   (["cn", "unassigned"], (· == .Cn)),
   (["c", "other"], fun c => c == .Cc || c == .Cf || c == .Co || c == .Cn),
   (["any"], fun _ => true),
   (["assigned"], (· != .Cn))]

/-- The members of a general category. -/
def category? (name : String) : Option CharSet :=
  if name = "ascii" then some CharSet.ascii
  else (categoryNames.find? fun e => e.1.contains name).map fun e => CharSet.categories e.2

/-- The names of the scripts in which no ASCII letter is written. -/
def otherScripts : List String :=
  ["adlam", "adlm", "aghb", "ahom", "anatolianhieroglyphs", "arab", "arabic", "armenian",
   "armi", "armn", "avestan", "avst", "bali", "balinese", "bamu", "bamum", "bass", "bassavah",
   "batak", "batk", "beng", "bengali", "bhaiksuki", "bhks", "bopo", "bopomofo", "brah",
   "brahmi", "brai", "braille", "bugi", "buginese", "buhd", "buhid", "cakm",
   "canadianaboriginal", "cans", "cari", "carian", "caucasianalbanian", "chakma", "cham",
   "cher", "cherokee", "chorasmian", "chrs", "copt", "coptic", "cpmn", "cprt", "cuneiform",
   "cypriot", "cyprominoan", "cyrillic", "cyrl", "deseret", "deva", "devanagari", "diak",
   "divesakuru", "dogr", "dogra", "dsrt", "dupl", "duployan", "egyp", "egyptianhieroglyphs",
   "elba", "elbasan", "elym", "elymaic", "ethi", "ethiopic", "gara", "garay", "geor",
   "georgian", "glag", "glagolitic", "gong", "gonm", "goth", "gothic", "gran", "grantha",
   "greek", "grek", "gujarati", "gujr", "gukh", "gunjalagondi", "gurmukhi", "guru",
   "gurungkhema", "han", "hang", "hangul", "hani", "hanifirohingya", "hano", "hanunoo", "hatr",
   "hatran", "hebr", "hebrew", "hira", "hiragana", "hluw", "hmng", "hmnp", "hung",
   "imperialaramaic", "inherited", "inscriptionalpahlavi", "inscriptionalparthian", "ital",
   "java", "javanese", "kaithi", "kali", "kana", "kannada", "katakana", "kawi", "kayahli",
   "khar", "kharoshthi", "khitansmallscript", "khmer", "khmr", "khoj", "khojki", "khudawadi",
   "kiratrai", "kits", "knda", "krai", "kthi", "lana", "lao", "laoo", "lepc", "lepcha", "limb",
   "limbu", "lina", "linb", "lineara", "linearb", "lisu", "lyci", "lycian", "lydi", "lydian",
   "mahajani", "mahj", "maka", "makasar", "malayalam", "mand", "mandaic", "mani", "manichaean",
   "marc", "marchen", "masaramgondi", "medefaidrin", "medf", "meeteimayek", "mend",
   "mendekikakui", "merc", "mero", "meroiticcursive", "meroitichieroglyphs", "miao", "mlym",
   "modi", "mong", "mongolian", "mro", "mroo", "mtei", "mult", "multani", "myanmar", "mymr",
   "nabataean", "nagm", "nagmundari", "nand", "nandinagari", "narb", "nbat", "newa",
   "newtailue", "nko", "nkoo", "nshu", "nushu", "nyiakengpuachuehmong", "ogam", "ogham",
   "olchiki", "olck", "oldhungarian", "olditalic", "oldnortharabian", "oldpermic",
   "oldpersian", "oldsogdian", "oldsoutharabian", "oldturkic", "olduyghur", "olonal", "onao",
   "oriya", "orkh", "orya", "osage", "osge", "osma", "osmanya", "ougr", "pahawhhmong", "palm",
   "palmyrene", "pauc", "paucinhau", "perm", "phag", "phagspa", "phli", "phlp", "phnx",
   "phoenician", "plrd", "prti", "psalterpahlavi", "qaac", "qaai", "rejang", "rjng", "rohg",
   "runic", "runr", "samaritan", "samr", "sarb", "saur", "saurashtra", "sgnw", "sharada",
   "shavian", "shaw", "shrd", "sidd", "siddham", "signwriting", "sind", "sinh", "sinhala",
   "sogd", "sogdian", "sogo", "sora", "sorasompeng", "soyo", "soyombo", "sund", "sundanese",
   "sunu", "sunuwar", "sylo", "sylotinagri", "syrc", "syriac", "tagalog", "tagb", "tagbanwa",
   "taile", "taitham", "taiviet", "takr", "takri", "tale", "talu", "tamil", "taml", "tang",
   "tangsa", "tangut", "tavt", "telu", "telugu", "tfng", "tglg", "thaa", "thaana", "thai",
   "tibetan", "tibt", "tifinagh", "tirh", "tirhuta", "tnsa", "todhri", "todr", "toto",
   "tulutigalari", "tutg", "ugar", "ugaritic", "vai", "vaii", "vith", "vithkuqi", "wancho",
   "wara", "warangciti", "wcho", "xpeo", "xsux", "yezi", "yezidi", "yi", "yiii",
   "zanabazarsquare", "zanb", "zinh"]

/-- The scripts with ASCII members. -/
def asciiScripts : List Entry :=
  [(["latin", "latn"], [(0x41, 0x5A), (0x61, 0x7A), (0x17F, 0x17F), (0x212A, 0x212A)]),
   (["common", "zyyy"], [(0x0, 0x40), (0x5B, 0x60), (0x7B, 0x7F)])]

/-- The members of a script. -/
def script? (name : String) : Option CharSet :=
  if otherScripts.contains name then some CharSet.empty else find? asciiScripts name

/-- The alphabetic characters. -/
def alphabetic : CharSet :=
  (CharSet.categories Unicode.Category.isLetter).union
    (CharSet.ofBoundaries Unicode.otherAlphabetic)

/-- The blank characters. -/
def blank : CharSet := CharSet.ofBoundaries Unicode.blank

/-- The decimal digits. -/
def digit : CharSet := CharSet.categories (· == .Nd)

/-- The characters that words are made of. -/
def word : CharSet :=
  (alphabetic.union (CharSet.categories fun c => c.isMark || c == .Nd || c == .Pc)).union
    (CharSet.range 0x200C 0x200D)

/-- The yes-or-no properties. -/
def yesNo : List Entry :=
  [(["ahex", "asciihexdigit"], [(0x30, 0x39), (0x41, 0x46), (0x61, 0x66)]),
   (["bidic", "bidicontrol"], []),
   (["caseignorable", "ci"], [(0x27, 0x27), (0x2E, 0x2E), (0x3A, 0x3A), (0x5E, 0x5E),
      (0x60, 0x60)]),
   (["cased"], [(0x41, 0x5A), (0x61, 0x7A), (0x17F, 0x17F), (0x212A, 0x212A)]),
   (["changeswhencasefolded", "cwcf"], [(0x41, 0x5A), (0x17F, 0x17F), (0x212A, 0x212A)]),
   (["changeswhencasemapped", "cwcm"], [(0x41, 0x5A), (0x61, 0x7A), (0x17F, 0x17F),
      (0x212A, 0x212A)]),
   (["changeswhenlowercased", "cwl"], [(0x41, 0x5A), (0x212A, 0x212A)]),
   (["changeswhentitlecased", "cwt"], [(0x61, 0x7A), (0x17F, 0x17F)]),
   (["changeswhenuppercased", "cwu"], [(0x61, 0x7A), (0x17F, 0x17F)]),
   (["dash"], [(0x2D, 0x2D)]), (["defaultignorablecodepoint", "di"], []),
   (["dep", "deprecated"], []), (["dia", "diacritic"], [(0x5E, 0x5E), (0x60, 0x60)]),
   (["emoji"], [(0x23, 0x23), (0x2A, 0x2A), (0x30, 0x39)]),
   (["ecomp", "emojicomponent"], [(0x23, 0x23), (0x2A, 0x2A), (0x30, 0x39)]),
   (["emod", "emojimodifier"], []), (["ebase", "emojimodifierbase"], []),
   (["emojipresentation", "epres"], []), (["extendedpictographic", "extpict"], []),
   (["ext", "extender"], []),
   (["graphemebase", "grbase"], [(0x20, 0x7E), (0x17F, 0x17F), (0x212A, 0x212A)]),
   (["graphemelink", "grlink"], []),
   (["hex", "hexdigit"], [(0x30, 0x39), (0x41, 0x46), (0x61, 0x66)]),
   (["hyphen"], [(0x2D, 0x2D)]), (["idsb", "idsbinaryoperator"], []),
   (["idst", "idstrinaryoperator"], []),
   (["idc", "idcontinue"], [(0x30, 0x39), (0x41, 0x5A), (0x5F, 0x5F), (0x61, 0x7A),
      (0x17F, 0x17F), (0x212A, 0x212A)]),
   (["ids", "idstart"], [(0x41, 0x5A), (0x61, 0x7A), (0x17F, 0x17F), (0x212A, 0x212A)]),
   (["ideo", "ideographic"], []), (["joinc", "joincontrol"], []),
   (["loe", "logicalorderexception"], []),
   (["lower", "lowercase"], [(0x61, 0x7A), (0x17F, 0x17F)]),
   (["math"], [(0x2B, 0x2B), (0x3C, 0x3E), (0x5E, 0x5E), (0x7C, 0x7C), (0x7E, 0x7E)]),
   (["nchar", "noncharactercodepoint"], []),
   (["patsyn", "patternsyntax"], [(0x21, 0x2F), (0x3A, 0x40), (0x5B, 0x5E), (0x60, 0x60),
      (0x7B, 0x7E)]),
   (["patternwhitespace", "patws"], [(0x9, 0xD), (0x20, 0x20)]),
   (["pcm", "prependedconcatenationmark"], []),
   (["qmark", "quotationmark"], [(0x22, 0x22), (0x27, 0x27)]), (["radical"], []),
   (["regionalindicator", "ri"], []),
   (["sentenceterminal", "sterm"], [(0x21, 0x21), (0x2E, 0x2E), (0x3F, 0x3F)]),
   (["sd", "softdotted"], [(0x69, 0x6A)]),
   (["term", "terminalpunctuation"], [(0x21, 0x21), (0x2C, 0x2C), (0x2E, 0x2E), (0x3A, 0x3B),
      (0x3F, 0x3F)]),
   (["uideo", "unifiedideograph"], []),
   (["upper", "uppercase"], [(0x41, 0x5A), (0x212A, 0x212A)]),
   (["variationselector", "vs"], []),
   (["xidc", "xidcontinue"], [(0x30, 0x39), (0x41, 0x5A), (0x5F, 0x5F), (0x61, 0x7A),
      (0x17F, 0x17F), (0x212A, 0x212A)]),
   (["xids", "xidstart"], [(0x41, 0x5A), (0x61, 0x7A), (0x17F, 0x17F), (0x212A, 0x212A)]),
   (["oalpha", "otheralphabetic"], []), (["odi", "otherdefaultignorablecodepoint"], []),
   (["ogrext", "othergraphemeextend"], []), (["oidc", "otheridcontinue"], []),
   (["oids", "otheridstart"], []), (["olower", "otherlowercase"], []),
   (["omath", "othermath"], [(0x5E, 0x5E)]), (["oupper", "otheruppercase"], []),
   (["idsu", "idsunaryoperator"], []), (["idcompatmathcontinue"], []),
   (["idcompatmathstart"], []), (["mcm", "modifiercombiningmark"], [])]

/-- The members of a yes-or-no property. -/
def yesNo? (name : String) : Option CharSet :=
  if ["alpha", "alphabetic"].contains name then some alphabetic
  else if ["space", "whitespace", "wspace"].contains name then some blank
  else if ["grext", "graphemeextend"].contains name then some CharSet.empty
  else find? yesNo name

/-- The versions of the character database in which characters were added. ASCII was there from
the first. -/
def ages : List String :=
  ["1.1", "v11", "10.0", "v100", "11.0", "v110", "12.0", "v120", "12.1", "v121", "13.0",
   "v130", "14.0", "v140", "15.0", "v150", "2.0", "v20", "2.1", "v21", "3.0", "v30", "3.1",
   "v31", "3.2", "v32", "4.0", "v40", "4.1", "v41", "5.0", "v50", "5.1", "v51", "5.2", "v52",
   "6.0", "v60", "6.1", "v61", "6.2", "v62", "6.3", "v63", "7.0", "v70", "8.0", "v80", "9.0",
   "v90", "15.1", "v151", "16.0", "v160"]

/-- The characters that were there in a version. -/
def age? (name : String) : Option CharSet :=
  if ages.contains name then some CharSet.all else none

/-- Where characters are joined to the ones before them. -/
def graphemeBreak : List Entry :=
  [(["cn", "control"], [(0x0, 0x9), (0xB, 0xC), (0xE, 0x1F), (0x7F, 0x7F)]),
   (["cr"], [(0xD, 0xD)]), (["ex", "extend"], []), (["l"], []), (["lf"], [(0xA, 0xA)]),
   (["lv"], []), (["lvt"], []), (["pp", "prepend"], []), (["regionalindicator", "ri"], []),
   (["sm", "spacingmark"], []), (["t"], []), (["v"], []), (["zwj"], [])]

/-- Where sentences end. -/
def sentenceBreak : List Entry :=
  [(["at", "aterm"], [(0x2E, 0x2E)]),
   (["cl", "close"], [(0x22, 0x22), (0x27, 0x29), (0x5B, 0x5B), (0x5D, 0x5D), (0x7B, 0x7B),
      (0x7D, 0x7D)]),
   (["cr"], [(0xD, 0xD)]), (["ex", "extend"], []), (["fo", "format"], []),
   (["le", "oletter"], []), (["lf"], [(0xA, 0xA)]),
   (["lo", "lower"], [(0x61, 0x7A), (0x17F, 0x17F)]), (["nu", "numeric"], [(0x30, 0x39)]),
   (["sc", "scontinue"], [(0x2C, 0x2D), (0x3A, 0x3A)]), (["se", "sep"], []),
   (["sp"], [(0x9, 0x9), (0xB, 0xC), (0x20, 0x20)]),
   (["st", "sterm"], [(0x21, 0x21), (0x3F, 0x3F)]),
   (["up", "upper"], [(0x41, 0x5A), (0x212A, 0x212A)])]

/-- Where words end. -/
def wordBreak : List Entry :=
  [(["cr"], [(0xD, 0xD)]), (["doublequote", "dq"], [(0x22, 0x22)]),
   (["ex", "extendnumlet"], [(0x5F, 0x5F)]), (["extend"], []), (["fo", "format"], []),
   (["hebrewletter", "hl"], []), (["ka", "katakana"], []),
   (["aletter", "le"], [(0x41, 0x5A), (0x61, 0x7A), (0x17F, 0x17F), (0x212A, 0x212A)]),
   (["lf"], [(0xA, 0xA)]), (["mb", "midnumlet"], [(0x2E, 0x2E)]),
   (["midletter", "ml"], [(0x3A, 0x3A)]), (["midnum", "mn"], [(0x2C, 0x2C), (0x3B, 0x3B)]),
   (["newline", "nl"], [(0xB, 0xC)]), (["nu", "numeric"], [(0x30, 0x39)]),
   (["regionalindicator", "ri"], []), (["singlequote", "sq"], [(0x27, 0x27)]),
   (["wsegspace"], [(0x20, 0x20)]), (["zwj"], [])]

/-- The characters of a property named alone: a yes-or-no property, a general category or a
script. -/
def named? (name : List Char) : Option CharSet :=
  let n := normalize name
  ((yesNo? n <|> category? n) <|> script? n)

/-- The characters for which a property has a value. -/
def valued? (property value : List Char) : Option CharSet :=
  let p := normalize property
  let v := normalize value
  if ["gc", "generalcategory"].contains p then category? v
  else if ["sc", "script", "scx", "scriptextensions"].contains p then script? v
  else if p = "age" then age? v
  else if ["gcb", "graphemeclusterbreak"].contains p then find? graphemeBreak v
  else if ["sb", "sentencebreak"].contains p then find? sentenceBreak v
  else if ["wb", "wordbreak"].contains p then find? wordBreak v
  else none

end BluetoothDirectory.Pattern.Property
