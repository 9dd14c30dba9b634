import RouteTemplate.Unicode.CharSet

/-!
The script of every code point, as the runs of one script in code point order, and the names of
the scripts. Codes and names are in lower case.
-/

namespace RouteTemplate.Unicode.Script

/-- Each script's four-letter code and its longer names. -/
def names : List (String × List String) :=
  [("adlm", ["adlam"]), ("aghb", ["caucasianalbanian"]), ("ahom", []), ("arab", ["arabic"]),
   ("armi", ["imperialaramaic"]), ("armn", ["armenian"]), ("avst", ["avestan"]),
   ("bali", ["balinese"]), ("bamu", ["bamum"]), ("bass", ["bassavah"]), ("batk", ["batak"]),
   ("beng", ["bengali"]), ("bhks", ["bhaiksuki"]), ("bopo", ["bopomofo"]), ("brah", ["brahmi"]),
   ("brai", ["braille"]), ("bugi", ["buginese"]), ("buhd", ["buhid"]), ("cakm", ["chakma"]),
   ("cans", ["canadianaboriginal"]), ("cari", ["carian"]), ("cham", []), ("cher", ["cherokee"]),
   ("chrs", ["chorasmian"]), ("copt", ["coptic", "qaac"]), ("cpmn", ["cyprominoan"]),
   ("cprt", ["cypriot"]), ("cyrl", ["cyrillic"]), ("deva", ["devanagari"]),
   ("diak", ["divesakuru"]), ("dogr", ["dogra"]), ("dsrt", ["deseret"]), ("dupl", ["duployan"]),
   ("egyp", ["egyptianhieroglyphs"]), ("elba", ["elbasan"]), ("elym", ["elymaic"]),
   ("ethi", ["ethiopic"]), ("gara", ["garay"]), ("geor", ["georgian"]), ("glag", ["glagolitic"]),
   ("gong", ["gunjalagondi"]), ("gonm", ["masaramgondi"]), ("goth", ["gothic"]),
   ("gran", ["grantha"]), ("grek", ["greek"]), ("gujr", ["gujarati"]), ("gukh", ["gurungkhema"]),
   ("guru", ["gurmukhi"]), ("hang", ["hangul"]), ("hani", ["han"]), ("hano", ["hanunoo"]),
   ("hatr", ["hatran"]), ("hebr", ["hebrew"]), ("hira", ["hiragana"]),
   ("hluw", ["anatolianhieroglyphs"]), ("hmng", ["pahawhhmong"]),
   ("hmnp", ["nyiakengpuachuehmong"]), ("hung", ["oldhungarian"]), ("ital", ["olditalic"]),
   ("java", ["javanese"]), ("kali", ["kayahli"]), ("kana", ["katakana"]), ("kawi", []),
   ("khar", ["kharoshthi"]), ("khmr", ["khmer"]), ("khoj", ["khojki"]),
   ("kits", ["khitansmallscript"]), ("knda", ["kannada"]), ("krai", ["kiratrai"]),
   ("kthi", ["kaithi"]), ("lana", ["taitham"]), ("laoo", ["lao"]), ("latn", ["latin"]),
   ("lepc", ["lepcha"]), ("limb", ["limbu"]), ("lina", ["lineara"]), ("linb", ["linearb"]),
   ("lisu", []), ("lyci", ["lycian"]), ("lydi", ["lydian"]), ("mahj", ["mahajani"]),
   ("maka", ["makasar"]), ("mand", ["mandaic"]), ("mani", ["manichaean"]), ("marc", ["marchen"]),
   ("medf", ["medefaidrin"]), ("mend", ["mendekikakui"]), ("merc", ["meroiticcursive"]),
   ("mero", ["meroitichieroglyphs"]), ("mlym", ["malayalam"]), ("modi", []),
   ("mong", ["mongolian"]), ("mroo", ["mro"]), ("mtei", ["meeteimayek"]), ("mult", ["multani"]),
   ("mymr", ["myanmar"]), ("nagm", ["nagmundari"]), ("nand", ["nandinagari"]),
   ("narb", ["oldnortharabian"]), ("nbat", ["nabataean"]), ("newa", []), ("nkoo", ["nko"]),
   ("nshu", ["nushu"]), ("ogam", ["ogham"]), ("olck", ["olchiki"]), ("onao", ["olonal"]),
   ("orkh", ["oldturkic"]), ("orya", ["oriya"]), ("osge", ["osage"]), ("osma", ["osmanya"]),
   ("ougr", ["olduyghur"]), ("palm", ["palmyrene"]), ("pauc", ["paucinhau"]),
   ("perm", ["oldpermic"]), ("phag", ["phagspa"]), ("phli", ["inscriptionalpahlavi"]),
   ("phlp", ["psalterpahlavi"]), ("phnx", ["phoenician"]), ("plrd", ["miao"]),
   ("prti", ["inscriptionalparthian"]), ("rjng", ["rejang"]), ("rohg", ["hanifirohingya"]),
   ("runr", ["runic"]), ("samr", ["samaritan"]), ("sarb", ["oldsoutharabian"]),
   ("saur", ["saurashtra"]), ("sgnw", ["signwriting"]), ("shaw", ["shavian"]),
   ("shrd", ["sharada"]), ("sidd", ["siddham"]), ("sind", ["khudawadi"]), ("sinh", ["sinhala"]),
   ("sogd", ["sogdian"]), ("sogo", ["oldsogdian"]), ("sora", ["sorasompeng"]),
   ("soyo", ["soyombo"]), ("sund", ["sundanese"]), ("sunu", ["sunuwar"]), ("sylo", ["sylotinagri"]),
   ("syrc", ["syriac"]), ("tagb", ["tagbanwa"]), ("takr", ["takri"]), ("tale", ["taile"]),
   ("talu", ["newtailue"]), ("taml", ["tamil"]), ("tang", ["tangut"]), ("tavt", ["taiviet"]),
   ("telu", ["telugu"]), ("tfng", ["tifinagh"]), ("tglg", ["tagalog"]), ("thaa", ["thaana"]),
   ("thai", []), ("tibt", ["tibetan"]), ("tirh", ["tirhuta"]), ("tnsa", ["tangsa"]),
   ("todr", ["todhri"]), ("toto", []), ("tutg", ["tulutigalari"]), ("ugar", ["ugaritic"]),
   ("vaii", ["vai"]), ("vith", ["vithkuqi"]), ("wara", ["warangciti"]), ("wcho", ["wancho"]),
   ("xpeo", ["oldpersian"]), ("xsux", ["cuneiform"]), ("yezi", ["yezidi"]), ("yiii", ["yi"]),
   ("zanb", ["zanabazarsquare"]), ("zinh", ["inherited", "qaai"]), ("zyyy", ["common"])]

/-- The runs from U+0000 to U+1F5B. -/
def runs0000 : List (String × Nat) :=
  [("zyyy", 65), ("latn", 26), ("zyyy", 6), ("latn", 26), ("zyyy", 47), ("latn", 1), ("zyyy", 15),
   ("latn", 1), ("zyyy", 5), ("latn", 23), ("zyyy", 1), ("latn", 31), ("zyyy", 1), ("latn", 449),
   ("zyyy", 39), ("latn", 5), ("zyyy", 5), ("bopo", 2), ("zyyy", 20), ("zinh", 112), ("grek", 4),
   ("zyyy", 1), ("grek", 3), ("zzzz", 2), ("grek", 4), ("zyyy", 1), ("grek", 1), ("zzzz", 4),
   ("grek", 1), ("zyyy", 1), ("grek", 1), ("zyyy", 1), ("grek", 3), ("zzzz", 1), ("grek", 1),
   ("zzzz", 1), ("grek", 20), ("zzzz", 1), ("grek", 63), ("copt", 14), ("grek", 16), ("cyrl", 133),
   ("zinh", 2), ("cyrl", 169), ("zzzz", 1), ("armn", 38), ("zzzz", 2), ("armn", 50), ("zzzz", 2),
   ("armn", 3), ("zzzz", 1), ("hebr", 55), ("zzzz", 8), ("hebr", 27), ("zzzz", 4), ("hebr", 6),
   ("zzzz", 11), ("arab", 5), ("zyyy", 1), ("arab", 6), ("zyyy", 1), ("arab", 14), ("zyyy", 1),
   ("arab", 3), ("zyyy", 1), ("arab", 32), ("zyyy", 1), ("arab", 10), ("zinh", 11), ("arab", 26),
   ("zinh", 1), ("arab", 108), ("zyyy", 1), ("arab", 34), ("syrc", 14), ("zzzz", 1), ("syrc", 60),
   ("zzzz", 2), ("syrc", 3), ("arab", 48), ("thaa", 50), ("zzzz", 14), ("nkoo", 59), ("zzzz", 2),
   ("nkoo", 3), ("samr", 46), ("zzzz", 2), ("samr", 15), ("zzzz", 1), ("mand", 28), ("zzzz", 2),
   ("mand", 1), ("zzzz", 1), ("syrc", 11), ("zzzz", 5), ("arab", 31), ("zzzz", 1), ("arab", 2),
   ("zzzz", 5), ("arab", 75), ("zyyy", 1), ("arab", 29), ("deva", 81), ("zinh", 4), ("deva", 15),
   ("zyyy", 2), ("deva", 26), ("beng", 4), ("zzzz", 1), ("beng", 8), ("zzzz", 2), ("beng", 2),
   ("zzzz", 2), ("beng", 22), ("zzzz", 1), ("beng", 7), ("zzzz", 1), ("beng", 1), ("zzzz", 3),
   ("beng", 4), ("zzzz", 2), ("beng", 9), ("zzzz", 2), ("beng", 2), ("zzzz", 2), ("beng", 4),
   ("zzzz", 8), ("beng", 1), ("zzzz", 4), ("beng", 2), ("zzzz", 1), ("beng", 5), ("zzzz", 2),
   ("beng", 25), ("zzzz", 2), ("guru", 3), ("zzzz", 1), ("guru", 6), ("zzzz", 4), ("guru", 2),
   ("zzzz", 2), ("guru", 22), ("zzzz", 1), ("guru", 7), ("zzzz", 1), ("guru", 2), ("zzzz", 1),
   ("guru", 2), ("zzzz", 1), ("guru", 2), ("zzzz", 2), ("guru", 1), ("zzzz", 1), ("guru", 5),
   ("zzzz", 4), ("guru", 2), ("zzzz", 2), ("guru", 3), ("zzzz", 3), ("guru", 1), ("zzzz", 7),
   ("guru", 4), ("zzzz", 1), ("guru", 1), ("zzzz", 7), ("guru", 17), ("zzzz", 10), ("gujr", 3),
   ("zzzz", 1), ("gujr", 9), ("zzzz", 1), ("gujr", 3), ("zzzz", 1), ("gujr", 22), ("zzzz", 1),
   ("gujr", 7), ("zzzz", 1), ("gujr", 2), ("zzzz", 1), ("gujr", 5), ("zzzz", 2), ("gujr", 10),
   ("zzzz", 1), ("gujr", 3), ("zzzz", 1), ("gujr", 3), ("zzzz", 2), ("gujr", 1), ("zzzz", 15),
   ("gujr", 4), ("zzzz", 2), ("gujr", 12), ("zzzz", 7), ("gujr", 7), ("zzzz", 1), ("orya", 3),
   ("zzzz", 1), ("orya", 8), ("zzzz", 2), ("orya", 2), ("zzzz", 2), ("orya", 22), ("zzzz", 1),
   ("orya", 7), ("zzzz", 1), ("orya", 2), ("zzzz", 1), ("orya", 5), ("zzzz", 2), ("orya", 9),
   ("zzzz", 2), ("orya", 2), ("zzzz", 2), ("orya", 3), ("zzzz", 7), ("orya", 3), ("zzzz", 4),
   ("orya", 2), ("zzzz", 1), ("orya", 5), ("zzzz", 2), ("orya", 18), ("zzzz", 10), ("taml", 2),
   ("zzzz", 1), ("taml", 6), ("zzzz", 3), ("taml", 3), ("zzzz", 1), ("taml", 4), ("zzzz", 3),
   ("taml", 2), ("zzzz", 1), ("taml", 1), ("zzzz", 1), ("taml", 2), ("zzzz", 3), ("taml", 2),
   ("zzzz", 3), ("taml", 3), ("zzzz", 3), ("taml", 12), ("zzzz", 4), ("taml", 5), ("zzzz", 3),
   ("taml", 3), ("zzzz", 1), ("taml", 4), ("zzzz", 2), ("taml", 1), ("zzzz", 6), ("taml", 1),
   ("zzzz", 14), ("taml", 21), ("zzzz", 5), ("telu", 13), ("zzzz", 1), ("telu", 3), ("zzzz", 1),
   ("telu", 23), ("zzzz", 1), ("telu", 16), ("zzzz", 2), ("telu", 9), ("zzzz", 1), ("telu", 3),
   ("zzzz", 1), ("telu", 4), ("zzzz", 7), ("telu", 2), ("zzzz", 1), ("telu", 3), ("zzzz", 2),
   ("telu", 1), ("zzzz", 2), ("telu", 4), ("zzzz", 2), ("telu", 10), ("zzzz", 7), ("telu", 9),
   ("knda", 13), ("zzzz", 1), ("knda", 3), ("zzzz", 1), ("knda", 23), ("zzzz", 1), ("knda", 10),
   ("zzzz", 1), ("knda", 5), ("zzzz", 2), ("knda", 9), ("zzzz", 1), ("knda", 3), ("zzzz", 1),
   ("knda", 4), ("zzzz", 7), ("knda", 2), ("zzzz", 6), ("knda", 2), ("zzzz", 1), ("knda", 4),
   ("zzzz", 2), ("knda", 10), ("zzzz", 1), ("knda", 3), ("zzzz", 12), ("mlym", 13), ("zzzz", 1),
   ("mlym", 3), ("zzzz", 1), ("mlym", 51), ("zzzz", 1), ("mlym", 3), ("zzzz", 1), ("mlym", 6),
   ("zzzz", 4), ("mlym", 16), ("zzzz", 2), ("mlym", 26), ("zzzz", 1), ("sinh", 3), ("zzzz", 1),
   ("sinh", 18), ("zzzz", 3), ("sinh", 24), ("zzzz", 1), ("sinh", 9), ("zzzz", 1), ("sinh", 1),
   ("zzzz", 2), ("sinh", 7), ("zzzz", 3), ("sinh", 1), ("zzzz", 4), ("sinh", 6), ("zzzz", 1),
   ("sinh", 1), ("zzzz", 1), ("sinh", 8), ("zzzz", 6), ("sinh", 10), ("zzzz", 2), ("sinh", 3),
   ("zzzz", 12), ("thai", 58), ("zzzz", 4), ("zyyy", 1), ("thai", 28), ("zzzz", 37), ("laoo", 2),
   ("zzzz", 1), ("laoo", 1), ("zzzz", 1), ("laoo", 5), ("zzzz", 1), ("laoo", 24), ("zzzz", 1),
   ("laoo", 1), ("zzzz", 1), ("laoo", 23), ("zzzz", 2), ("laoo", 5), ("zzzz", 1), ("laoo", 1),
   ("zzzz", 1), ("laoo", 7), ("zzzz", 1), ("laoo", 10), ("zzzz", 2), ("laoo", 4), ("zzzz", 32),
   ("tibt", 72), ("zzzz", 1), ("tibt", 36), ("zzzz", 4), ("tibt", 39), ("zzzz", 1), ("tibt", 36),
   ("zzzz", 1), ("tibt", 15), ("zzzz", 1), ("tibt", 7), ("zyyy", 4), ("tibt", 2), ("zzzz", 37),
   ("mymr", 160), ("geor", 38), ("zzzz", 1), ("geor", 1), ("zzzz", 5), ("geor", 1), ("zzzz", 2),
   ("geor", 43), ("zyyy", 1), ("geor", 4), ("hang", 256), ("ethi", 73), ("zzzz", 1), ("ethi", 4),
   ("zzzz", 2), ("ethi", 7), ("zzzz", 1), ("ethi", 1), ("zzzz", 1), ("ethi", 4), ("zzzz", 2),
   ("ethi", 41), ("zzzz", 1), ("ethi", 4), ("zzzz", 2), ("ethi", 33), ("zzzz", 1), ("ethi", 4),
   ("zzzz", 2), ("ethi", 7), ("zzzz", 1), ("ethi", 1), ("zzzz", 1), ("ethi", 4), ("zzzz", 2),
   ("ethi", 15), ("zzzz", 1), ("ethi", 57), ("zzzz", 1), ("ethi", 4), ("zzzz", 2), ("ethi", 67),
   ("zzzz", 2), ("ethi", 32), ("zzzz", 3), ("ethi", 26), ("zzzz", 6), ("cher", 86), ("zzzz", 2),
   ("cher", 6), ("zzzz", 2), ("cans", 640), ("ogam", 29), ("zzzz", 3), ("runr", 75), ("zyyy", 3),
   ("runr", 11), ("zzzz", 7), ("tglg", 22), ("zzzz", 9), ("tglg", 1), ("hano", 21), ("zyyy", 2),
   ("zzzz", 9), ("buhd", 20), ("zzzz", 12), ("tagb", 13), ("zzzz", 1), ("tagb", 3), ("zzzz", 1),
   ("tagb", 2), ("zzzz", 12), ("khmr", 94), ("zzzz", 2), ("khmr", 10), ("zzzz", 6), ("khmr", 10),
   ("zzzz", 6), ("mong", 2), ("zyyy", 2), ("mong", 1), ("zyyy", 1), ("mong", 20), ("zzzz", 6),
   ("mong", 89), ("zzzz", 7), ("mong", 43), ("zzzz", 5), ("cans", 70), ("zzzz", 10), ("limb", 31),
   ("zzzz", 1), ("limb", 12), ("zzzz", 4), ("limb", 12), ("zzzz", 4), ("limb", 1), ("zzzz", 3),
   ("limb", 12), ("tale", 30), ("zzzz", 2), ("tale", 5), ("zzzz", 11), ("talu", 44), ("zzzz", 4),
   ("talu", 26), ("zzzz", 6), ("talu", 11), ("zzzz", 3), ("talu", 2), ("khmr", 32), ("bugi", 28),
   ("zzzz", 2), ("bugi", 2), ("lana", 63), ("zzzz", 1), ("lana", 29), ("zzzz", 2), ("lana", 11),
   ("zzzz", 6), ("lana", 10), ("zzzz", 6), ("lana", 14), ("zzzz", 2), ("zinh", 31), ("zzzz", 49),
   ("bali", 77), ("zzzz", 1), ("bali", 50), ("sund", 64), ("batk", 52), ("zzzz", 8), ("batk", 4),
   ("lepc", 56), ("zzzz", 3), ("lepc", 15), ("zzzz", 3), ("lepc", 3), ("olck", 48), ("cyrl", 11),
   ("zzzz", 5), ("geor", 43), ("zzzz", 2), ("geor", 3), ("sund", 8), ("zzzz", 8), ("zinh", 3),
   ("zyyy", 1), ("zinh", 13), ("zyyy", 1), ("zinh", 7), ("zyyy", 4), ("zinh", 1), ("zyyy", 6),
   ("zinh", 1), ("zyyy", 3), ("zinh", 2), ("zyyy", 1), ("zzzz", 5), ("latn", 38), ("grek", 5),
   ("cyrl", 1), ("latn", 49), ("grek", 5), ("latn", 4), ("grek", 5), ("latn", 13), ("cyrl", 1),
   ("latn", 70), ("grek", 1), ("zinh", 64), ("latn", 256), ("grek", 22), ("zzzz", 2), ("grek", 6),
   ("zzzz", 2), ("grek", 38), ("zzzz", 2), ("grek", 6), ("zzzz", 2), ("grek", 8), ("zzzz", 1),
   ("grek", 1), ("zzzz", 1), ("grek", 1)]

/-- The runs from U+1F5C to U+1133A. -/
def runs1F5C : List (String × Nat) :=
  [("zzzz", 1), ("grek", 1), ("zzzz", 1), ("grek", 31), ("zzzz", 2), ("grek", 53), ("zzzz", 1),
   ("grek", 15), ("zzzz", 1), ("grek", 14), ("zzzz", 2), ("grek", 6), ("zzzz", 1), ("grek", 19),
   ("zzzz", 2), ("grek", 3), ("zzzz", 1), ("grek", 9), ("zzzz", 1), ("zyyy", 12), ("zinh", 2),
   ("zyyy", 87), ("zzzz", 1), ("zyyy", 11), ("latn", 1), ("zzzz", 2), ("zyyy", 11), ("latn", 1),
   ("zyyy", 15), ("zzzz", 1), ("latn", 13), ("zzzz", 3), ("zyyy", 33), ("zzzz", 15), ("zinh", 33),
   ("zzzz", 15), ("zyyy", 38), ("grek", 1), ("zyyy", 3), ("latn", 2), ("zyyy", 6), ("latn", 1),
   ("zyyy", 27), ("latn", 1), ("zyyy", 17), ("latn", 41), ("zyyy", 3), ("zzzz", 4), ("zyyy", 666),
   ("zzzz", 22), ("zyyy", 11), ("zzzz", 21), ("zyyy", 928), ("brai", 256), ("zyyy", 628),
   ("zzzz", 2), ("zyyy", 32), ("zzzz", 1), ("zyyy", 105), ("glag", 96), ("latn", 32), ("copt", 116),
   ("zzzz", 5), ("copt", 7), ("geor", 38), ("zzzz", 1), ("geor", 1), ("zzzz", 5), ("geor", 1),
   ("zzzz", 2), ("tfng", 56), ("zzzz", 7), ("tfng", 2), ("zzzz", 14), ("tfng", 1), ("ethi", 23),
   ("zzzz", 9), ("ethi", 7), ("zzzz", 1), ("ethi", 7), ("zzzz", 1), ("ethi", 7), ("zzzz", 1),
   ("ethi", 7), ("zzzz", 1), ("ethi", 7), ("zzzz", 1), ("ethi", 7), ("zzzz", 1), ("ethi", 7),
   ("zzzz", 1), ("ethi", 7), ("zzzz", 1), ("cyrl", 32), ("zyyy", 94), ("zzzz", 34), ("hani", 26),
   ("zzzz", 1), ("hani", 89), ("zzzz", 12), ("hani", 214), ("zzzz", 26), ("zyyy", 21), ("hani", 1),
   ("zyyy", 1), ("hani", 1), ("zyyy", 25), ("hani", 9), ("zinh", 4), ("hang", 2), ("zyyy", 8),
   ("hani", 4), ("zyyy", 4), ("zzzz", 1), ("hira", 86), ("zzzz", 2), ("zinh", 2), ("zyyy", 2),
   ("hira", 3), ("zyyy", 1), ("kana", 90), ("zyyy", 2), ("kana", 3), ("zzzz", 5), ("bopo", 43),
   ("zzzz", 1), ("hang", 94), ("zzzz", 1), ("zyyy", 16), ("bopo", 32), ("zyyy", 38), ("zzzz", 9),
   ("zyyy", 1), ("kana", 16), ("hang", 31), ("zzzz", 1), ("zyyy", 64), ("hang", 31), ("zyyy", 81),
   ("kana", 47), ("zyyy", 1), ("kana", 88), ("zyyy", 168), ("hani", 6592), ("zyyy", 64),
   ("hani", 20992), ("yiii", 1165), ("zzzz", 3), ("yiii", 55), ("zzzz", 9), ("lisu", 48),
   ("vaii", 300), ("zzzz", 20), ("cyrl", 96), ("bamu", 88), ("zzzz", 8), ("zyyy", 34),
   ("latn", 102), ("zyyy", 3), ("latn", 67), ("zzzz", 2), ("latn", 2), ("zzzz", 1), ("latn", 1),
   ("zzzz", 1), ("latn", 8), ("zzzz", 21), ("latn", 14), ("sylo", 45), ("zzzz", 3), ("zyyy", 10),
   ("zzzz", 6), ("phag", 56), ("zzzz", 8), ("saur", 70), ("zzzz", 8), ("saur", 12), ("zzzz", 6),
   ("deva", 32), ("kali", 46), ("zyyy", 1), ("kali", 1), ("rjng", 36), ("zzzz", 11), ("rjng", 1),
   ("hang", 29), ("zzzz", 3), ("java", 78), ("zzzz", 1), ("zyyy", 1), ("java", 10), ("zzzz", 4),
   ("java", 2), ("mymr", 31), ("zzzz", 1), ("cham", 55), ("zzzz", 9), ("cham", 14), ("zzzz", 2),
   ("cham", 10), ("zzzz", 2), ("cham", 4), ("mymr", 32), ("tavt", 67), ("zzzz", 24), ("tavt", 5),
   ("mtei", 23), ("zzzz", 10), ("ethi", 6), ("zzzz", 2), ("ethi", 6), ("zzzz", 2), ("ethi", 6),
   ("zzzz", 9), ("ethi", 7), ("zzzz", 1), ("ethi", 7), ("zzzz", 1), ("latn", 43), ("zyyy", 1),
   ("latn", 9), ("grek", 1), ("latn", 4), ("zyyy", 2), ("zzzz", 4), ("cher", 80), ("mtei", 46),
   ("zzzz", 2), ("mtei", 10), ("zzzz", 6), ("hang", 11172), ("zzzz", 12), ("hang", 23), ("zzzz", 4),
   ("hang", 49), ("zzzz", 8452), ("hani", 366), ("zzzz", 2), ("hani", 106), ("zzzz", 38),
   ("latn", 7), ("zzzz", 12), ("armn", 5), ("zzzz", 5), ("hebr", 26), ("zzzz", 1), ("hebr", 5),
   ("zzzz", 1), ("hebr", 1), ("zzzz", 1), ("hebr", 2), ("zzzz", 1), ("hebr", 2), ("zzzz", 1),
   ("hebr", 10), ("arab", 115), ("zzzz", 16), ("arab", 363), ("zyyy", 2), ("arab", 80), ("zzzz", 2),
   ("arab", 54), ("zzzz", 7), ("arab", 1), ("zzzz", 32), ("arab", 16), ("zinh", 16), ("zyyy", 10),
   ("zzzz", 6), ("zinh", 14), ("cyrl", 2), ("zyyy", 35), ("zzzz", 1), ("zyyy", 19), ("zzzz", 1),
   ("zyyy", 4), ("zzzz", 4), ("arab", 5), ("zzzz", 1), ("arab", 135), ("zzzz", 2), ("zyyy", 1),
   ("zzzz", 1), ("zyyy", 32), ("latn", 26), ("zyyy", 6), ("latn", 26), ("zyyy", 11), ("kana", 10),
   ("zyyy", 1), ("kana", 45), ("zyyy", 2), ("hang", 31), ("zzzz", 3), ("hang", 6), ("zzzz", 2),
   ("hang", 6), ("zzzz", 2), ("hang", 6), ("zzzz", 2), ("hang", 3), ("zzzz", 3), ("zyyy", 7),
   ("zzzz", 1), ("zyyy", 7), ("zzzz", 10), ("zyyy", 5), ("zzzz", 2), ("linb", 12), ("zzzz", 1),
   ("linb", 26), ("zzzz", 1), ("linb", 19), ("zzzz", 1), ("linb", 2), ("zzzz", 1), ("linb", 15),
   ("zzzz", 2), ("linb", 14), ("zzzz", 34), ("linb", 123), ("zzzz", 5), ("zyyy", 3), ("zzzz", 4),
   ("zyyy", 45), ("zzzz", 3), ("zyyy", 9), ("grek", 79), ("zzzz", 1), ("zyyy", 13), ("zzzz", 3),
   ("grek", 1), ("zzzz", 47), ("zyyy", 45), ("zinh", 1), ("zzzz", 130), ("lyci", 29), ("zzzz", 3),
   ("cari", 49), ("zzzz", 15), ("zinh", 1), ("zyyy", 27), ("zzzz", 4), ("ital", 36), ("zzzz", 9),
   ("ital", 3), ("goth", 27), ("zzzz", 5), ("perm", 43), ("zzzz", 5), ("ugar", 30), ("zzzz", 1),
   ("ugar", 1), ("xpeo", 36), ("zzzz", 4), ("xpeo", 14), ("zzzz", 42), ("dsrt", 80), ("shaw", 48),
   ("osma", 30), ("zzzz", 2), ("osma", 10), ("zzzz", 6), ("osge", 36), ("zzzz", 4), ("osge", 36),
   ("zzzz", 4), ("elba", 40), ("zzzz", 8), ("aghb", 52), ("zzzz", 11), ("aghb", 1), ("vith", 11),
   ("zzzz", 1), ("vith", 15), ("zzzz", 1), ("vith", 7), ("zzzz", 1), ("vith", 2), ("zzzz", 1),
   ("vith", 11), ("zzzz", 1), ("vith", 15), ("zzzz", 1), ("vith", 7), ("zzzz", 1), ("vith", 2),
   ("zzzz", 3), ("todr", 52), ("zzzz", 12), ("lina", 311), ("zzzz", 9), ("lina", 22), ("zzzz", 10),
   ("lina", 8), ("zzzz", 24), ("latn", 6), ("zzzz", 1), ("latn", 42), ("zzzz", 1), ("latn", 9),
   ("zzzz", 69), ("cprt", 6), ("zzzz", 2), ("cprt", 1), ("zzzz", 1), ("cprt", 44), ("zzzz", 1),
   ("cprt", 2), ("zzzz", 3), ("cprt", 1), ("zzzz", 2), ("cprt", 1), ("armi", 22), ("zzzz", 1),
   ("armi", 9), ("palm", 32), ("nbat", 31), ("zzzz", 8), ("nbat", 9), ("zzzz", 48), ("hatr", 19),
   ("zzzz", 1), ("hatr", 2), ("zzzz", 5), ("hatr", 5), ("phnx", 28), ("zzzz", 3), ("phnx", 1),
   ("lydi", 26), ("zzzz", 5), ("lydi", 1), ("zzzz", 64), ("mero", 32), ("merc", 24), ("zzzz", 4),
   ("merc", 20), ("zzzz", 2), ("merc", 46), ("khar", 4), ("zzzz", 1), ("khar", 2), ("zzzz", 5),
   ("khar", 8), ("zzzz", 1), ("khar", 3), ("zzzz", 1), ("khar", 29), ("zzzz", 2), ("khar", 3),
   ("zzzz", 4), ("khar", 10), ("zzzz", 7), ("khar", 9), ("zzzz", 7), ("sarb", 32), ("narb", 32),
   ("zzzz", 32), ("mani", 39), ("zzzz", 4), ("mani", 12), ("zzzz", 9), ("avst", 54), ("zzzz", 3),
   ("avst", 7), ("prti", 22), ("zzzz", 2), ("prti", 8), ("phli", 19), ("zzzz", 5), ("phli", 8),
   ("phlp", 18), ("zzzz", 7), ("phlp", 4), ("zzzz", 12), ("phlp", 7), ("zzzz", 80), ("orkh", 73),
   ("zzzz", 55), ("hung", 51), ("zzzz", 13), ("hung", 51), ("zzzz", 7), ("hung", 6), ("rohg", 40),
   ("zzzz", 8), ("rohg", 10), ("zzzz", 6), ("gara", 38), ("zzzz", 3), ("gara", 29), ("zzzz", 8),
   ("gara", 2), ("zzzz", 208), ("arab", 31), ("zzzz", 1), ("yezi", 42), ("zzzz", 1), ("yezi", 3),
   ("zzzz", 2), ("yezi", 2), ("zzzz", 16), ("arab", 3), ("zzzz", 55), ("arab", 4), ("sogo", 40),
   ("zzzz", 8), ("sogd", 42), ("zzzz", 22), ("ougr", 26), ("zzzz", 38), ("chrs", 28), ("zzzz", 20),
   ("elym", 23), ("zzzz", 9), ("brah", 78), ("zzzz", 4), ("brah", 36), ("zzzz", 9), ("brah", 1),
   ("kthi", 67), ("zzzz", 10), ("kthi", 1), ("zzzz", 2), ("sora", 25), ("zzzz", 7), ("sora", 10),
   ("zzzz", 6), ("cakm", 53), ("zzzz", 1), ("cakm", 18), ("zzzz", 8), ("mahj", 39), ("zzzz", 9),
   ("shrd", 96), ("zzzz", 1), ("sinh", 20), ("zzzz", 11), ("khoj", 18), ("zzzz", 1), ("khoj", 47),
   ("zzzz", 62), ("mult", 7), ("zzzz", 1), ("mult", 1), ("zzzz", 1), ("mult", 4), ("zzzz", 1),
   ("mult", 15), ("zzzz", 1), ("mult", 11), ("zzzz", 6), ("sind", 59), ("zzzz", 5), ("sind", 10),
   ("zzzz", 6), ("gran", 4), ("zzzz", 1), ("gran", 8), ("zzzz", 2), ("gran", 2), ("zzzz", 2),
   ("gran", 22), ("zzzz", 1), ("gran", 7), ("zzzz", 1), ("gran", 2), ("zzzz", 1), ("gran", 5),
   ("zzzz", 1)]

/-- The runs from U+1133B to U+10FFFF. -/
def runs1133B : List (String × Nat) :=
  [("zinh", 1), ("gran", 9), ("zzzz", 2), ("gran", 2), ("zzzz", 2), ("gran", 3), ("zzzz", 2),
   ("gran", 1), ("zzzz", 6), ("gran", 1), ("zzzz", 5), ("gran", 7), ("zzzz", 2), ("gran", 7),
   ("zzzz", 3), ("gran", 5), ("zzzz", 11), ("tutg", 10), ("zzzz", 1), ("tutg", 1), ("zzzz", 2),
   ("tutg", 1), ("zzzz", 1), ("tutg", 38), ("zzzz", 1), ("tutg", 10), ("zzzz", 1), ("tutg", 1),
   ("zzzz", 2), ("tutg", 1), ("zzzz", 1), ("tutg", 4), ("zzzz", 1), ("tutg", 10), ("zzzz", 1),
   ("tutg", 2), ("zzzz", 8), ("tutg", 2), ("zzzz", 29), ("newa", 92), ("zzzz", 1), ("newa", 5),
   ("zzzz", 30), ("tirh", 72), ("zzzz", 8), ("tirh", 10), ("zzzz", 166), ("sidd", 54), ("zzzz", 2),
   ("sidd", 38), ("zzzz", 34), ("modi", 69), ("zzzz", 11), ("modi", 10), ("zzzz", 6), ("mong", 13),
   ("zzzz", 19), ("takr", 58), ("zzzz", 6), ("takr", 10), ("zzzz", 6), ("mymr", 20), ("zzzz", 28),
   ("ahom", 27), ("zzzz", 2), ("ahom", 15), ("zzzz", 4), ("ahom", 23), ("zzzz", 185), ("dogr", 60),
   ("zzzz", 100), ("wara", 83), ("zzzz", 12), ("wara", 1), ("diak", 7), ("zzzz", 2), ("diak", 1),
   ("zzzz", 2), ("diak", 8), ("zzzz", 1), ("diak", 2), ("zzzz", 1), ("diak", 30), ("zzzz", 1),
   ("diak", 2), ("zzzz", 2), ("diak", 12), ("zzzz", 9), ("diak", 10), ("zzzz", 70), ("nand", 8),
   ("zzzz", 2), ("nand", 46), ("zzzz", 2), ("nand", 11), ("zzzz", 27), ("zanb", 72), ("zzzz", 8),
   ("soyo", 83), ("zzzz", 13), ("cans", 16), ("pauc", 57), ("zzzz", 7), ("deva", 10), ("zzzz", 182),
   ("sunu", 34), ("zzzz", 14), ("sunu", 10), ("zzzz", 6), ("bhks", 9), ("zzzz", 1), ("bhks", 45),
   ("zzzz", 1), ("bhks", 14), ("zzzz", 10), ("bhks", 29), ("zzzz", 3), ("marc", 32), ("zzzz", 2),
   ("marc", 22), ("zzzz", 1), ("marc", 14), ("zzzz", 73), ("gonm", 7), ("zzzz", 1), ("gonm", 2),
   ("zzzz", 1), ("gonm", 44), ("zzzz", 3), ("gonm", 1), ("zzzz", 1), ("gonm", 2), ("zzzz", 1),
   ("gonm", 9), ("zzzz", 8), ("gonm", 10), ("zzzz", 6), ("gong", 6), ("zzzz", 1), ("gong", 2),
   ("zzzz", 1), ("gong", 37), ("zzzz", 1), ("gong", 2), ("zzzz", 1), ("gong", 6), ("zzzz", 7),
   ("gong", 10), ("zzzz", 310), ("maka", 25), ("zzzz", 7), ("kawi", 17), ("zzzz", 1), ("kawi", 41),
   ("zzzz", 3), ("kawi", 29), ("zzzz", 85), ("lisu", 1), ("zzzz", 15), ("taml", 50), ("zzzz", 13),
   ("taml", 1), ("xsux", 922), ("zzzz", 102), ("xsux", 111), ("zzzz", 1), ("xsux", 5), ("zzzz", 11),
   ("xsux", 196), ("zzzz", 2636), ("cpmn", 99), ("zzzz", 13), ("egyp", 1110), ("zzzz", 10),
   ("egyp", 3995), ("zzzz", 5), ("hluw", 583), ("zzzz", 6841), ("gukh", 58), ("zzzz", 1734),
   ("bamu", 569), ("zzzz", 7), ("mroo", 31), ("zzzz", 1), ("mroo", 10), ("zzzz", 4), ("mroo", 2),
   ("tnsa", 79), ("zzzz", 1), ("tnsa", 10), ("zzzz", 6), ("bass", 30), ("zzzz", 2), ("bass", 6),
   ("zzzz", 10), ("hmng", 70), ("zzzz", 10), ("hmng", 10), ("zzzz", 1), ("hmng", 7), ("zzzz", 1),
   ("hmng", 21), ("zzzz", 5), ("hmng", 19), ("zzzz", 432), ("krai", 58), ("zzzz", 198),
   ("medf", 91), ("zzzz", 101), ("plrd", 75), ("zzzz", 4), ("plrd", 57), ("zzzz", 7), ("plrd", 17),
   ("zzzz", 64), ("tang", 1), ("nshu", 1), ("hani", 2), ("kits", 1), ("zzzz", 11), ("hani", 2),
   ("zzzz", 14), ("tang", 6136), ("zzzz", 8), ("tang", 768), ("kits", 470), ("zzzz", 41),
   ("kits", 1), ("tang", 9), ("zzzz", 8935), ("kana", 4), ("zzzz", 1), ("kana", 7), ("zzzz", 1),
   ("kana", 2), ("zzzz", 1), ("kana", 1), ("hira", 287), ("kana", 3), ("zzzz", 15), ("hira", 1),
   ("zzzz", 29), ("hira", 3), ("zzzz", 2), ("kana", 1), ("zzzz", 14), ("kana", 4), ("zzzz", 8),
   ("nshu", 396), ("zzzz", 2308), ("dupl", 107), ("zzzz", 5), ("dupl", 13), ("zzzz", 3),
   ("dupl", 9), ("zzzz", 7), ("dupl", 10), ("zzzz", 2), ("dupl", 4), ("zyyy", 4), ("zzzz", 3932),
   ("zyyy", 250), ("zzzz", 6), ("zyyy", 436), ("zzzz", 76), ("zinh", 46), ("zzzz", 2), ("zinh", 23),
   ("zzzz", 9), ("zyyy", 116), ("zzzz", 60), ("zyyy", 246), ("zzzz", 10), ("zyyy", 39), ("zzzz", 2),
   ("zyyy", 62), ("zinh", 3), ("zyyy", 17), ("zinh", 8), ("zyyy", 2), ("zinh", 7), ("zyyy", 30),
   ("zinh", 4), ("zyyy", 61), ("zzzz", 21), ("grek", 70), ("zzzz", 122), ("zyyy", 20), ("zzzz", 12),
   ("zyyy", 20), ("zzzz", 12), ("zyyy", 87), ("zzzz", 9), ("zyyy", 25), ("zzzz", 135), ("zyyy", 85),
   ("zzzz", 1), ("zyyy", 71), ("zzzz", 1), ("zyyy", 2), ("zzzz", 2), ("zyyy", 1), ("zzzz", 2),
   ("zyyy", 2), ("zzzz", 2), ("zyyy", 4), ("zzzz", 1), ("zyyy", 12), ("zzzz", 1), ("zyyy", 1),
   ("zzzz", 1), ("zyyy", 7), ("zzzz", 1), ("zyyy", 65), ("zzzz", 1), ("zyyy", 4), ("zzzz", 2),
   ("zyyy", 8), ("zzzz", 1), ("zyyy", 7), ("zzzz", 1), ("zyyy", 28), ("zzzz", 1), ("zyyy", 4),
   ("zzzz", 1), ("zyyy", 5), ("zzzz", 1), ("zyyy", 1), ("zzzz", 3), ("zyyy", 7), ("zzzz", 1),
   ("zyyy", 340), ("zzzz", 2), ("zyyy", 292), ("zzzz", 2), ("zyyy", 50), ("sgnw", 652),
   ("zzzz", 15), ("sgnw", 5), ("zzzz", 1), ("sgnw", 15), ("zzzz", 1104), ("latn", 31), ("zzzz", 6),
   ("latn", 6), ("zzzz", 213), ("glag", 7), ("zzzz", 1), ("glag", 17), ("zzzz", 2), ("glag", 7),
   ("zzzz", 1), ("glag", 2), ("zzzz", 1), ("glag", 5), ("zzzz", 5), ("cyrl", 62), ("zzzz", 33),
   ("cyrl", 1), ("zzzz", 112), ("hmnp", 45), ("zzzz", 3), ("hmnp", 14), ("zzzz", 2), ("hmnp", 10),
   ("zzzz", 4), ("hmnp", 2), ("zzzz", 320), ("toto", 31), ("zzzz", 17), ("wcho", 58), ("zzzz", 5),
   ("wcho", 1), ("zzzz", 464), ("nagm", 42), ("zzzz", 214), ("onao", 43), ("zzzz", 4), ("onao", 1),
   ("zzzz", 480), ("ethi", 7), ("zzzz", 1), ("ethi", 4), ("zzzz", 1), ("ethi", 2), ("zzzz", 1),
   ("ethi", 15), ("zzzz", 1), ("mend", 197), ("zzzz", 2), ("mend", 16), ("zzzz", 41), ("adlm", 76),
   ("zzzz", 4), ("adlm", 10), ("zzzz", 4), ("adlm", 2), ("zzzz", 785), ("zyyy", 68), ("zzzz", 76),
   ("zyyy", 61), ("zzzz", 194), ("arab", 4), ("zzzz", 1), ("arab", 27), ("zzzz", 1), ("arab", 2),
   ("zzzz", 1), ("arab", 1), ("zzzz", 2), ("arab", 1), ("zzzz", 1), ("arab", 10), ("zzzz", 1),
   ("arab", 4), ("zzzz", 1), ("arab", 1), ("zzzz", 1), ("arab", 1), ("zzzz", 6), ("arab", 1),
   ("zzzz", 4), ("arab", 1), ("zzzz", 1), ("arab", 1), ("zzzz", 1), ("arab", 1), ("zzzz", 1),
   ("arab", 3), ("zzzz", 1), ("arab", 2), ("zzzz", 1), ("arab", 1), ("zzzz", 2), ("arab", 1),
   ("zzzz", 1), ("arab", 1), ("zzzz", 1), ("arab", 1), ("zzzz", 1), ("arab", 1), ("zzzz", 1),
   ("arab", 1), ("zzzz", 1), ("arab", 2), ("zzzz", 1), ("arab", 1), ("zzzz", 2), ("arab", 4),
   ("zzzz", 1), ("arab", 7), ("zzzz", 1), ("arab", 4), ("zzzz", 1), ("arab", 4), ("zzzz", 1),
   ("arab", 1), ("zzzz", 1), ("arab", 10), ("zzzz", 1), ("arab", 17), ("zzzz", 5), ("arab", 3),
   ("zzzz", 1), ("arab", 5), ("zzzz", 1), ("arab", 17), ("zzzz", 52), ("arab", 2), ("zzzz", 270),
   ("zyyy", 44), ("zzzz", 4), ("zyyy", 100), ("zzzz", 12), ("zyyy", 15), ("zzzz", 2), ("zyyy", 15),
   ("zzzz", 1), ("zyyy", 15), ("zzzz", 1), ("zyyy", 37), ("zzzz", 10), ("zyyy", 174), ("zzzz", 56),
   ("zyyy", 26), ("hira", 1), ("zyyy", 2), ("zzzz", 13), ("zyyy", 44), ("zzzz", 4), ("zyyy", 9),
   ("zzzz", 7), ("zyyy", 2), ("zzzz", 14), ("zyyy", 6), ("zzzz", 154), ("zyyy", 984), ("zzzz", 4),
   ("zyyy", 17), ("zzzz", 3), ("zyyy", 13), ("zzzz", 3), ("zyyy", 119), ("zzzz", 4), ("zyyy", 95),
   ("zzzz", 6), ("zyyy", 12), ("zzzz", 4), ("zyyy", 1), ("zzzz", 15), ("zyyy", 12), ("zzzz", 4),
   ("zyyy", 56), ("zzzz", 8), ("zyyy", 10), ("zzzz", 6), ("zyyy", 40), ("zzzz", 8), ("zyyy", 30),
   ("zzzz", 2), ("zyyy", 12), ("zzzz", 4), ("zyyy", 2), ("zzzz", 62), ("zyyy", 340), ("zzzz", 12),
   ("zyyy", 14), ("zzzz", 2), ("zyyy", 13), ("zzzz", 3), ("zyyy", 10), ("zzzz", 5), ("zyyy", 56),
   ("zzzz", 7), ("zyyy", 15), ("zzzz", 2), ("zyyy", 11), ("zzzz", 6), ("zyyy", 9), ("zzzz", 7),
   ("zyyy", 147), ("zzzz", 1), ("zyyy", 102), ("zzzz", 1030), ("hani", 42720), ("zzzz", 32),
   ("hani", 4154), ("zzzz", 6), ("hani", 222), ("zzzz", 2), ("hani", 5762), ("zzzz", 14),
   ("hani", 7473), ("zzzz", 15), ("hani", 622), ("zzzz", 2466), ("hani", 542), ("zzzz", 1506),
   ("hani", 4939), ("zzzz", 5), ("hani", 4192), ("zzzz", 711761), ("zyyy", 1), ("zzzz", 30),
   ("zyyy", 96), ("zzzz", 128), ("zinh", 240), ("zzzz", 196112)]

/-- The runs of code points of one script, each with its length; `zzzz` stands for no script. -/
def runs : List (String × Nat) := runs0000 ++ runs1F5C ++ runs1133B

/-- The runs of one script, where the first run begins at `start`. -/
def rangesOf (code : String) : Nat → List (String × Nat) → List CodeRange
  | _, [] => []
  | start, (s, len) :: rest =>
    if s = code then ⟨start, start + len - 1⟩ :: rangesOf code (start + len) rest
    else rangesOf code (start + len) rest

/-- The characters of the script of that code. -/
def ofCode (code : String) : CharSet := ⟨CharSet.coalesce (rangesOf code 0 runs)⟩

/-- The code of the script of that name. -/
def code? (name : String) : Option String :=
  (names.find? fun p => p.1 = name || p.2.contains name).map (·.1)

def named? (name : String) : Option CharSet := (code? name).map ofCode

end RouteTemplate.Unicode.Script
