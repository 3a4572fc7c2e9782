/-!
# Names of properties and of their values

Each entry gives the spellings of one property or value, reduced to lower-case letters and digits
as `looseName` reduces them. A value without characters of its own has its spellings too.
-/

namespace OrderedLexer.Unicode

/-- The spellings of the binary properties. -/
def binaryNames : List (String × List String) := [
  ("ASCII_Hex_Digit", ["ahex", "asciihexdigit"]),
  ("Alphabetic", ["alpha", "alphabetic"]),
  ("Bidi_Control", ["bidic", "bidicontrol"]),
  ("Case_Ignorable", ["ci", "caseignorable"]),
  ("Cased", ["cased"]),
  ("Changes_When_Casefolded", ["cwcf", "changeswhencasefolded"]),
  ("Changes_When_Casemapped", ["cwcm", "changeswhencasemapped"]),
  ("Changes_When_Lowercased", ["cwl", "changeswhenlowercased"]),
  ("Changes_When_Titlecased", ["cwt", "changeswhentitlecased"]),
  ("Changes_When_Uppercased", ["cwu", "changeswhenuppercased"]),
  ("Dash", ["dash"]),
  ("Default_Ignorable_Code_Point", ["di", "defaultignorablecodepoint"]),
  ("Deprecated", ["dep", "deprecated"]),
  ("Diacritic", ["dia", "diacritic"]),
  ("Emoji", ["emoji"]),
  ("Emoji_Component", ["ecomp", "emojicomponent"]),
  ("Emoji_Modifier", ["emod", "emojimodifier"]),
  ("Emoji_Modifier_Base", ["ebase", "emojimodifierbase"]),
  ("Emoji_Presentation", ["epres", "emojipresentation"]),
  ("Extended_Pictographic", ["extpict", "extendedpictographic"]),
  ("Extender", ["ext", "extender"]),
  ("Grapheme_Base", ["grbase", "graphemebase"]),
  ("Grapheme_Extend", ["grext", "graphemeextend"]),
  ("Grapheme_Link", ["grlink", "graphemelink"]),
  ("Hex_Digit", ["hex", "hexdigit"]),
  ("Hyphen", ["hyphen"]),
  ("IDS_Binary_Operator", ["idsb", "idsbinaryoperator"]),
  ("IDS_Trinary_Operator", ["idst", "idstrinaryoperator"]),
  ("IDS_Unary_Operator", ["idsu", "idsunaryoperator"]),
  ("ID_Compat_Math_Continue", ["idcompatmathcontinue"]),
  ("ID_Compat_Math_Start", ["idcompatmathstart"]),
  ("ID_Continue", ["idc", "idcontinue"]),
  ("ID_Start", ["ids", "idstart"]),
  ("Ideographic", ["ideo", "ideographic"]),
  ("Join_Control", ["joinc", "joincontrol"]),
  ("Logical_Order_Exception", ["loe", "logicalorderexception"]),
  ("Lowercase", ["lower", "lowercase"]),
  ("Math", ["math"]),
  ("Modifier_Combining_Mark", ["mcm", "modifiercombiningmark"]),
  ("Noncharacter_Code_Point", ["nchar", "noncharactercodepoint"]),
  ("Other_Alphabetic", ["oalpha", "otheralphabetic"]),
  ("Other_Default_Ignorable_Code_Point", ["odi", "otherdefaultignorablecodepoint"]),
  ("Other_Grapheme_Extend", ["ogrext", "othergraphemeextend"]),
  ("Other_ID_Continue", ["oidc", "otheridcontinue"]),
  ("Other_ID_Start", ["oids", "otheridstart"]),
  ("Other_Lowercase", ["olower", "otherlowercase"]),
  ("Other_Math", ["omath", "othermath"]),
  ("Other_Uppercase", ["oupper", "otheruppercase"]),
  ("Pattern_Syntax", ["patsyn", "patternsyntax"]),
  ("Pattern_White_Space", ["patws", "patternwhitespace"]),
  ("Prepended_Concatenation_Mark", ["pcm", "prependedconcatenationmark"]),
  ("Quotation_Mark", ["qmark", "quotationmark"]),
  ("Radical", ["radical"]),
  ("Regional_Indicator", ["ri", "regionalindicator"]),
  ("Sentence_Terminal", ["sterm", "sentenceterminal"]),
  ("Soft_Dotted", ["sd", "softdotted"]),
  ("Terminal_Punctuation", ["term", "terminalpunctuation"]),
  ("Unified_Ideograph", ["uideo", "unifiedideograph"]),
  ("Uppercase", ["upper", "uppercase"]),
  ("Variation_Selector", ["vs", "variationselector"]),
  ("White_Space", ["wspace", "whitespace", "space"]),
  ("XID_Continue", ["xidc", "xidcontinue"]),
  ("XID_Start", ["xids", "xidstart"])]

/-- The spellings of the properties that have values. -/
def valuedNames : List (String × List String) := [
  ("Age", ["age"]),
  ("General_Category", ["gc", "generalcategory"]),
  ("Grapheme_Cluster_Break", ["gcb", "graphemeclusterbreak"]),
  ("Script", ["sc", "script"]),
  ("Script_Extensions", ["scx", "scriptextensions"]),
  ("Sentence_Break", ["sb", "sentencebreak"]),
  ("Word_Break", ["wb", "wordbreak"])]

/-- The spellings of the other properties of the standard, whose characters cannot be asked for. -/
def otherNames : List String := [
  "bc", "bidiclass", "bidim", "bidimirrored", "bidimirroringglyph", "bidipairedbracket",
  "bidipairedbrackettype", "blk", "block", "bmg", "bpb", "bpt", "canonicalcombiningclass",
  "casefolding", "ccc", "ce", "cf", "changeswhennfkccasefolded", "cjkaccountingnumeric",
  "cjkcompatibilityvariant", "cjkiicore", "cjkirggsource", "cjkirghsource", "cjkirgjsource",
  "cjkirgkpsource", "cjkirgksource", "cjkirgmsource", "cjkirgssource", "cjkirgtsource",
  "cjkirguksource", "cjkirgusource", "cjkirgvsource", "cjkothernumeric", "cjkprimarynumeric",
  "cjkrsunicode", "compex", "compositionexclusion", "cwkcf", "decompositionmapping",
  "decompositiontype", "dm", "dt", "ea", "eastasianwidth", "equideo",
  "equivalentunifiedideograph", "expandsonnfc", "expandsonnfd", "expandsonnfkc", "expandsonnfkd",
  "fcnfkc", "fcnfkcclosure", "fullcompositionexclusion", "hangulsyllabletype", "hst", "incb",
  "indicconjunctbreak", "indicpositionalcategory", "indicsyllabiccategory", "inpc", "insc", "isc",
  "jamoshortname", "jg", "joininggroup", "joiningtype", "jsn", "jt", "kaccountingnumeric",
  "kcompatibilityvariant", "kehcat", "kehdesc", "kehfunc", "kehfval", "kehhg", "kehifao",
  "kehjsesh", "kehnomirror", "kehnorotate", "kehunik", "kiicore", "kirggsource", "kirghsource",
  "kirgjsource", "kirgkpsource", "kirgksource", "kirgmsource", "kirgssource", "kirgtsource",
  "kirguksource", "kirgusource", "kirgvsource", "kothernumeric", "kprimarynumeric", "krsunicode",
  "lb", "lc", "linebreak", "lowercasemapping", "na", "na1", "name", "namealias", "nfcqc",
  "nfcquickcheck", "nfdqc", "nfdquickcheck", "nfkccasefold", "nfkccf", "nfkcqc", "nfkcquickcheck",
  "nfkcscf", "nfkcsimplecasefold", "nfkdqc", "nfkdquickcheck", "nt", "numerictype",
  "numericvalue", "nv", "ocomment", "scf", "sfc", "simplecasefolding", "simplelowercasemapping",
  "simpletitlecasemapping", "simpleuppercasemapping", "slc", "stc", "suc", "tc",
  "titlecasemapping", "uc", "unicode1name", "unicoderadicalstroke", "uppercasemapping", "urs",
  "verticalorientation", "vo", "xonfc", "xonfd", "xonfkc", "xonfkd"]

/-- The spellings of the general categories and of their groups, by short name. -/
def categoryNames : List (String × List String) := [
  ("C", ["c", "other"]),
  ("Cc", ["cc", "control", "cntrl"]),
  ("Cf", ["cf", "format"]),
  ("Cn", ["cn", "unassigned"]),
  ("Co", ["co", "privateuse"]),
  ("Cs", ["cs", "surrogate"]),
  ("L", ["l", "letter"]),
  ("LC", ["lc", "casedletter"]),
  ("Ll", ["ll", "lowercaseletter"]),
  ("Lm", ["lm", "modifierletter"]),
  ("Lo", ["lo", "otherletter"]),
  ("Lt", ["lt", "titlecaseletter"]),
  ("Lu", ["lu", "uppercaseletter"]),
  ("M", ["m", "mark", "combiningmark"]),
  ("Mc", ["mc", "spacingmark"]),
  ("Me", ["me", "enclosingmark"]),
  ("Mn", ["mn", "nonspacingmark"]),
  ("N", ["n", "number"]),
  ("Nd", ["nd", "decimalnumber", "digit"]),
  ("Nl", ["nl", "letternumber"]),
  ("No", ["no", "othernumber"]),
  ("P", ["p", "punctuation", "punct"]),
  ("Pc", ["pc", "connectorpunctuation"]),
  ("Pd", ["pd", "dashpunctuation"]),
  ("Pe", ["pe", "closepunctuation"]),
  ("Pf", ["pf", "finalpunctuation"]),
  ("Pi", ["pi", "initialpunctuation"]),
  ("Po", ["po", "otherpunctuation"]),
  ("Ps", ["ps", "openpunctuation"]),
  ("S", ["s", "symbol"]),
  ("Sc", ["sc", "currencysymbol"]),
  ("Sk", ["sk", "modifiersymbol"]),
  ("Sm", ["sm", "mathsymbol"]),
  ("So", ["so", "othersymbol"]),
  ("Z", ["z", "separator"]),
  ("Zl", ["zl", "lineseparator"]),
  ("Zp", ["zp", "paragraphseparator"]),
  ("Zs", ["zs", "spaceseparator"])]

/-- The spellings of the scripts, by long name. -/
def scriptNames : List (String × List String) := [
  ("Adlam", ["adlam", "adlm"]),
  ("Ahom", ["ahom"]),
  ("Anatolian_Hieroglyphs", ["anatolianhieroglyphs", "hluw"]),
  ("Arabic", ["arabic", "arab"]),
  ("Armenian", ["armenian", "armn"]),
  ("Avestan", ["avestan", "avst"]),
  ("Balinese", ["balinese", "bali"]),
  ("Bamum", ["bamum", "bamu"]),
  ("Bassa_Vah", ["bassavah", "bass"]),
  ("Batak", ["batak", "batk"]),
  ("Bengali", ["bengali", "beng"]),
  ("Beria_Erfe", ["beriaerfe", "berf"]),
  ("Bhaiksuki", ["bhaiksuki", "bhks"]),
  ("Bopomofo", ["bopomofo", "bopo"]),
  ("Brahmi", ["brahmi", "brah"]),
  ("Braille", ["braille", "brai"]),
  ("Buginese", ["buginese", "bugi"]),
  ("Buhid", ["buhid", "buhd"]),
  ("Canadian_Aboriginal", ["canadianaboriginal", "cans"]),
  ("Carian", ["carian", "cari"]),
  ("Caucasian_Albanian", ["caucasianalbanian", "aghb"]),
  ("Chakma", ["chakma", "cakm"]),
  ("Cham", ["cham"]),
  ("Cherokee", ["cherokee", "cher"]),
  ("Chorasmian", ["chorasmian", "chrs"]),
  ("Common", ["common", "zyyy"]),
  ("Coptic", ["coptic", "copt", "qaac"]),
  ("Cuneiform", ["cuneiform", "xsux"]),
  ("Cypriot", ["cypriot", "cprt"]),
  ("Cypro_Minoan", ["cyprominoan", "cpmn"]),
  ("Cyrillic", ["cyrillic", "cyrl"]),
  ("Deseret", ["deseret", "dsrt"]),
  ("Devanagari", ["devanagari", "deva"]),
  ("Dives_Akuru", ["divesakuru", "diak"]),
  ("Dogra", ["dogra", "dogr"]),
  ("Duployan", ["duployan", "dupl"]),
  ("Egyptian_Hieroglyphs", ["egyptianhieroglyphs", "egyp"]),
  ("Elbasan", ["elbasan", "elba"]),
  ("Elymaic", ["elymaic", "elym"]),
  ("Ethiopic", ["ethiopic", "ethi"]),
  ("Garay", ["garay", "gara"]),
  ("Georgian", ["georgian", "geor"]),
  ("Glagolitic", ["glagolitic", "glag"]),
  ("Gothic", ["gothic", "goth"]),
  ("Grantha", ["grantha", "gran"]),
  ("Greek", ["greek", "grek"]),
  ("Gujarati", ["gujarati", "gujr"]),
  ("Gunjala_Gondi", ["gunjalagondi", "gong"]),
  ("Gurmukhi", ["gurmukhi", "guru"]),
  ("Gurung_Khema", ["gurungkhema", "gukh"]),
  ("Han", ["han", "hani"]),
  ("Hangul", ["hangul", "hang"]),
  ("Hanifi_Rohingya", ["hanifirohingya", "rohg"]),
  ("Hanunoo", ["hanunoo", "hano"]),
  ("Hatran", ["hatran", "hatr"]),
  ("Hebrew", ["hebrew", "hebr"]),
  ("Hiragana", ["hiragana", "hira"]),
  ("Imperial_Aramaic", ["imperialaramaic", "armi"]),
  ("Inherited", ["inherited", "zinh", "qaai"]),
  ("Inscriptional_Pahlavi", ["inscriptionalpahlavi", "phli"]),
  ("Inscriptional_Parthian", ["inscriptionalparthian", "prti"]),
  ("Javanese", ["javanese", "java"]),
  ("Kaithi", ["kaithi", "kthi"]),
  ("Kannada", ["kannada", "knda"]),
  ("Katakana", ["katakana", "kana"]),
  ("Kawi", ["kawi"]),
  ("Kayah_Li", ["kayahli", "kali"]),
  ("Kharoshthi", ["kharoshthi", "khar"]),
  ("Khitan_Small_Script", ["khitansmallscript", "kits"]),
  ("Khmer", ["khmer", "khmr"]),
  ("Khojki", ["khojki", "khoj"]),
  ("Khudawadi", ["khudawadi", "sind"]),
  ("Kirat_Rai", ["kiratrai", "krai"]),
  ("Lao", ["lao", "laoo"]),
  ("Latin", ["latin", "latn"]),
  ("Lepcha", ["lepcha", "lepc"]),
  ("Limbu", ["limbu", "limb"]),
  ("Linear_A", ["lineara", "lina"]),
  ("Linear_B", ["linearb", "linb"]),
  ("Lisu", ["lisu"]),
  ("Lycian", ["lycian", "lyci"]),
  ("Lydian", ["lydian", "lydi"]),
  ("Mahajani", ["mahajani", "mahj"]),
  ("Makasar", ["makasar", "maka"]),
  ("Malayalam", ["malayalam", "mlym"]),
  ("Mandaic", ["mandaic", "mand"]),
  ("Manichaean", ["manichaean", "mani"]),
  ("Marchen", ["marchen", "marc"]),
  ("Masaram_Gondi", ["masaramgondi", "gonm"]),
  ("Medefaidrin", ["medefaidrin", "medf"]),
  ("Meetei_Mayek", ["meeteimayek", "mtei"]),
  ("Mende_Kikakui", ["mendekikakui", "mend"]),
  ("Meroitic_Cursive", ["meroiticcursive", "merc"]),
  ("Meroitic_Hieroglyphs", ["meroitichieroglyphs", "mero"]),
  ("Miao", ["miao", "plrd"]),
  ("Modi", ["modi"]),
  ("Mongolian", ["mongolian", "mong"]),
  ("Mro", ["mro", "mroo"]),
  ("Multani", ["multani", "mult"]),
  ("Myanmar", ["myanmar", "mymr"]),
  ("Nabataean", ["nabataean", "nbat"]),
  ("Nag_Mundari", ["nagmundari", "nagm"]),
  ("Nandinagari", ["nandinagari", "nand"]),
  ("New_Tai_Lue", ["newtailue", "talu"]),
  ("Newa", ["newa"]),
  ("Nko", ["nko", "nkoo"]),
  ("Nushu", ["nushu", "nshu"]),
  ("Nyiakeng_Puachue_Hmong", ["nyiakengpuachuehmong", "hmnp"]),
  ("Ogham", ["ogham", "ogam"]),
  ("Ol_Chiki", ["olchiki", "olck"]),
  ("Ol_Onal", ["olonal", "onao"]),
  ("Old_Hungarian", ["oldhungarian", "hung"]),
  ("Old_Italic", ["olditalic", "ital"]),
  ("Old_North_Arabian", ["oldnortharabian", "narb"]),
  ("Old_Permic", ["oldpermic", "perm"]),
  ("Old_Persian", ["oldpersian", "xpeo"]),
  ("Old_Sogdian", ["oldsogdian", "sogo"]),
  ("Old_South_Arabian", ["oldsoutharabian", "sarb"]),
  ("Old_Turkic", ["oldturkic", "orkh"]),
  ("Old_Uyghur", ["olduyghur", "ougr"]),
  ("Oriya", ["oriya", "orya"]),
  ("Osage", ["osage", "osge"]),
  ("Osmanya", ["osmanya", "osma"]),
  ("Pahawh_Hmong", ["pahawhhmong", "hmng"]),
  ("Palmyrene", ["palmyrene", "palm"]),
  ("Pau_Cin_Hau", ["paucinhau", "pauc"]),
  ("Phags_Pa", ["phagspa", "phag"]),
  ("Phoenician", ["phoenician", "phnx"]),
  ("Psalter_Pahlavi", ["psalterpahlavi", "phlp"]),
  ("Rejang", ["rejang", "rjng"]),
  ("Runic", ["runic", "runr"]),
  ("Samaritan", ["samaritan", "samr"]),
  ("Saurashtra", ["saurashtra", "saur"]),
  ("Sharada", ["sharada", "shrd"]),
  ("Shavian", ["shavian", "shaw"]),
  ("Siddham", ["siddham", "sidd"]),
  ("Sidetic", ["sidetic", "sidt"]),
  ("SignWriting", ["signwriting", "sgnw"]),
  ("Sinhala", ["sinhala", "sinh"]),
  ("Sogdian", ["sogdian", "sogd"]),
  ("Sora_Sompeng", ["sorasompeng", "sora"]),
  ("Soyombo", ["soyombo", "soyo"]),
  ("Sundanese", ["sundanese", "sund"]),
  ("Sunuwar", ["sunuwar", "sunu"]),
  ("Syloti_Nagri", ["sylotinagri", "sylo"]),
  ("Syriac", ["syriac", "syrc"]),
  ("Tagalog", ["tagalog", "tglg"]),
  ("Tagbanwa", ["tagbanwa", "tagb"]),
  ("Tai_Le", ["taile", "tale"]),
  ("Tai_Tham", ["taitham", "lana"]),
  ("Tai_Viet", ["taiviet", "tavt"]),
  ("Tai_Yo", ["taiyo", "tayo"]),
  ("Takri", ["takri", "takr"]),
  ("Tamil", ["tamil", "taml"]),
  ("Tangsa", ["tangsa", "tnsa"]),
  ("Tangut", ["tangut", "tang"]),
  ("Telugu", ["telugu", "telu"]),
  ("Thaana", ["thaana", "thaa"]),
  ("Thai", ["thai"]),
  ("Tibetan", ["tibetan", "tibt"]),
  ("Tifinagh", ["tifinagh", "tfng"]),
  ("Tirhuta", ["tirhuta", "tirh"]),
  ("Todhri", ["todhri", "todr"]),
  ("Tolong_Siki", ["tolongsiki", "tols"]),
  ("Toto", ["toto"]),
  ("Tulu_Tigalari", ["tulutigalari", "tutg"]),
  ("Ugaritic", ["ugaritic", "ugar"]),
  ("Unknown", ["unknown", "zzzz"]),
  ("Vai", ["vai", "vaii"]),
  ("Vithkuqi", ["vithkuqi", "vith"]),
  ("Wancho", ["wancho", "wcho"]),
  ("Warang_Citi", ["warangciti", "wara"]),
  ("Yezidi", ["yezidi", "yezi"]),
  ("Yi", ["yi", "yiii"]),
  ("Zanabazar_Square", ["zanabazarsquare", "zanb"])]

/-- The spellings of the ages. -/
def ageNames : List (String × List String) := [
  ("1.1", ["1.1", "v11"]),
  ("2.0", ["2.0", "v20"]),
  ("2.1", ["2.1", "v21"]),
  ("3.0", ["3.0", "v30"]),
  ("3.1", ["3.1", "v31"]),
  ("3.2", ["3.2", "v32"]),
  ("4.0", ["4.0", "v40"]),
  ("4.1", ["4.1", "v41"]),
  ("5.0", ["5.0", "v50"]),
  ("5.1", ["5.1", "v51"]),
  ("5.2", ["5.2", "v52"]),
  ("6.0", ["6.0", "v60"]),
  ("6.1", ["6.1", "v61"]),
  ("6.2", ["6.2", "v62"]),
  ("6.3", ["6.3", "v63"]),
  ("7.0", ["7.0", "v70"]),
  ("8.0", ["8.0", "v80"]),
  ("9.0", ["9.0", "v90"]),
  ("10.0", ["10.0", "v100"]),
  ("11.0", ["11.0", "v110"]),
  ("12.0", ["12.0", "v120"]),
  ("12.1", ["12.1", "v121"]),
  ("13.0", ["13.0", "v130"]),
  ("14.0", ["14.0", "v140"]),
  ("15.0", ["15.0", "v150"]),
  ("15.1", ["15.1", "v151"]),
  ("16.0", ["16.0", "v160"]),
  ("17.0", ["17.0", "v170"]),
  ("Unassigned", ["na", "unassigned"])]

/-- The spellings of the grapheme cluster classes, by long name. -/
def graphemeNames : List (String × List String) := [
  ("CR", ["cr"]),
  ("Control", ["cn", "control"]),
  ("E_Base", ["eb", "ebase"]),
  ("E_Base_GAZ", ["ebg", "ebasegaz"]),
  ("E_Modifier", ["em", "emodifier"]),
  ("Extend", ["ex", "extend"]),
  ("Glue_After_Zwj", ["gaz", "glueafterzwj"]),
  ("L", ["l"]),
  ("LF", ["lf"]),
  ("LV", ["lv"]),
  ("LVT", ["lvt"]),
  ("Other", ["xx", "other"]),
  ("Prepend", ["pp", "prepend"]),
  ("Regional_Indicator", ["ri", "regionalindicator"]),
  ("SpacingMark", ["sm", "spacingmark"]),
  ("T", ["t"]),
  ("V", ["v"]),
  ("ZWJ", ["zwj"])]

/-- The spellings of the word classes, by long name. -/
def wordNames : List (String × List String) := [
  ("ALetter", ["le", "aletter"]),
  ("CR", ["cr"]),
  ("Double_Quote", ["dq", "doublequote"]),
  ("E_Base", ["eb", "ebase"]),
  ("E_Base_GAZ", ["ebg", "ebasegaz"]),
  ("E_Modifier", ["em", "emodifier"]),
  ("Extend", ["extend"]),
  ("ExtendNumLet", ["ex", "extendnumlet"]),
  ("Format", ["fo", "format"]),
  ("Glue_After_Zwj", ["gaz", "glueafterzwj"]),
  ("Hebrew_Letter", ["hl", "hebrewletter"]),
  ("Katakana", ["ka", "katakana"]),
  ("LF", ["lf"]),
  ("MidLetter", ["ml", "midletter"]),
  ("MidNum", ["mn", "midnum"]),
  ("MidNumLet", ["mb", "midnumlet"]),
  ("Newline", ["nl", "newline"]),
  ("Numeric", ["nu", "numeric"]),
  ("Other", ["xx", "other"]),
  ("Regional_Indicator", ["ri", "regionalindicator"]),
  ("Single_Quote", ["sq", "singlequote"]),
  ("WSegSpace", ["wsegspace"]),
  ("ZWJ", ["zwj"])]

/-- The spellings of the sentence classes, by long name. -/
def sentenceNames : List (String × List String) := [
  ("ATerm", ["at", "aterm"]),
  ("CR", ["cr"]),
  ("Close", ["cl", "close"]),
  ("Extend", ["ex", "extend"]),
  ("Format", ["fo", "format"]),
  ("LF", ["lf"]),
  ("Lower", ["lo", "lower"]),
  ("Numeric", ["nu", "numeric"]),
  ("OLetter", ["le", "oletter"]),
  ("Other", ["xx", "other"]),
  ("SContinue", ["sc", "scontinue"]),
  ("STerm", ["st", "sterm"]),
  ("Sep", ["se", "sep"]),
  ("Sp", ["sp"]),
  ("Upper", ["up", "upper"])]

end OrderedLexer.Unicode
