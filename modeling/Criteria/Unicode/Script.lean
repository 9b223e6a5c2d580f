import Criteria.Unicode.CharClass
/-!
# Scripts

Every character belongs to one script, to none in particular, or takes the
script of its neighbours. The table lists the runs of one script in order,
each as `256 · first point + index of the script`; index `255` stands for
points that no character has yet.
-/

namespace Criteria.Unicode

namespace Script

/-- The names of each script, in comparable form and in the order of their
index. -/
def names : List (List String) :=
  [["adlam", "adlm"], ["aghb", "caucasianalbanian"], ["ahom"], ["arab", "arabic"],
   ["armi", "imperialaramaic"], ["armenian", "armn"], ["avestan", "avst"], ["bali", "balinese"],
   ["bamu", "bamum"], ["bass", "bassavah"], ["batak", "batk"], ["beng", "bengali"],
   ["bhaiksuki", "bhks"], ["bopo", "bopomofo"], ["brah", "brahmi"], ["brai", "braille"],
   ["bugi", "buginese"], ["buhd", "buhid"], ["cakm", "chakma"], ["canadianaboriginal", "cans"],
   ["cari", "carian"], ["cham"], ["cher", "cherokee"], ["chorasmian", "chrs"],
   ["copt", "coptic", "qaac"], ["cpmn", "cyprominoan"], ["cprt", "cypriot"],
   ["cyrillic", "cyrl"], ["deva", "devanagari"], ["diak", "divesakuru"], ["dogr", "dogra"],
   ["deseret", "dsrt"], ["dupl", "duployan"], ["egyp", "egyptianhieroglyphs"],
   ["elba", "elbasan"], ["elym", "elymaic"], ["ethi", "ethiopic"], ["geor", "georgian"],
   ["glag", "glagolitic"], ["gong", "gunjalagondi"], ["gonm", "masaramgondi"],
   ["goth", "gothic"], ["gran", "grantha"], ["greek", "grek"], ["gujarati", "gujr"],
   ["gurmukhi", "guru"], ["hang", "hangul"], ["han", "hani"], ["hano", "hanunoo"],
   ["hatr", "hatran"], ["hebr", "hebrew"], ["hira", "hiragana"],
   ["anatolianhieroglyphs", "hluw"], ["hmng", "pahawhhmong"], ["hmnp", "nyiakengpuachuehmong"],
   ["hung", "oldhungarian"], ["ital", "olditalic"], ["java", "javanese"], ["kali", "kayahli"],
   ["kana", "katakana"], ["kawi"], ["khar", "kharoshthi"], ["khmer", "khmr"], ["khoj", "khojki"],
   ["khitansmallscript", "kits"], ["kannada", "knda"], ["kaithi", "kthi"], ["lana", "taitham"],
   ["lao", "laoo"], ["latin", "latn"], ["lepc", "lepcha"], ["limb", "limbu"],
   ["lina", "lineara"], ["linb", "linearb"], ["lisu"], ["lyci", "lycian"], ["lydi", "lydian"],
   ["mahajani", "mahj"], ["maka", "makasar"], ["mand", "mandaic"], ["mani", "manichaean"],
   ["marc", "marchen"], ["medefaidrin", "medf"], ["mend", "mendekikakui"],
   ["merc", "meroiticcursive"], ["mero", "meroitichieroglyphs"], ["malayalam", "mlym"], ["modi"],
   ["mong", "mongolian"], ["mro", "mroo"], ["meeteimayek", "mtei"], ["mult", "multani"],
   ["myanmar", "mymr"], ["nagm", "nagmundari"], ["nand", "nandinagari"],
   ["narb", "oldnortharabian"], ["nabataean", "nbat"], ["newa"], ["nko", "nkoo"],
   ["nshu", "nushu"], ["ogam", "ogham"], ["olchiki", "olck"], ["oldturkic", "orkh"],
   ["oriya", "orya"], ["osage", "osge"], ["osma", "osmanya"], ["olduyghur", "ougr"],
   ["palm", "palmyrene"], ["pauc", "paucinhau"], ["oldpermic", "perm"], ["phag", "phagspa"],
   ["inscriptionalpahlavi", "phli"], ["phlp", "psalterpahlavi"], ["phnx", "phoenician"],
   ["miao", "plrd"], ["inscriptionalparthian", "prti"], ["rejang", "rjng"],
   ["hanifirohingya", "rohg"], ["runic", "runr"], ["samaritan", "samr"],
   ["oldsoutharabian", "sarb"], ["saur", "saurashtra"], ["sgnw", "signwriting"],
   ["shavian", "shaw"], ["sharada", "shrd"], ["sidd", "siddham"], ["khudawadi", "sind"],
   ["sinh", "sinhala"], ["sogd", "sogdian"], ["oldsogdian", "sogo"], ["sora", "sorasompeng"],
   ["soyo", "soyombo"], ["sund", "sundanese"], ["sylo", "sylotinagri"], ["syrc", "syriac"],
   ["tagb", "tagbanwa"], ["takr", "takri"], ["taile", "tale"], ["newtailue", "talu"],
   ["tamil", "taml"], ["tang", "tangut"], ["taiviet", "tavt"], ["telu", "telugu"],
   ["tfng", "tifinagh"], ["tagalog", "tglg"], ["thaa", "thaana"], ["thai"], ["tibetan", "tibt"],
   ["tirh", "tirhuta"], ["tangsa", "tnsa"], ["toto"], ["ugar", "ugaritic"], ["vai", "vaii"],
   ["vith", "vithkuqi"], ["wara", "warangciti"], ["wancho", "wcho"], ["oldpersian", "xpeo"],
   ["cuneiform", "xsux"], ["yezi", "yezidi"], ["yi", "yiii"], ["zanabazarsquare", "zanb"],
   ["inherited", "qaai", "zinh"], ["common", "zyyy"]]

set_option maxRecDepth 20000 in
/-- The runs of one script, in order. -/
def runs : List Nat :=
  [0xA2, 0x4145, 0x5BA2, 0x6145, 0x7BA2, 0xAA45, 0xABA2, 0xBA45, 0xBBA2, 0xC045, 0xD7A2, 0xD845,
   0xF7A2, 0xF845, 0x2B9A2, 0x2E045, 0x2E5A2, 0x2EA0D, 0x2ECA2, 0x300A1, 0x3702B, 0x374A2,
   0x3752B, 0x378FF, 0x37A2B, 0x37EA2, 0x37F2B, 0x380FF, 0x3842B, 0x385A2, 0x3862B, 0x387A2,
   0x3882B, 0x38BFF, 0x38C2B, 0x38DFF, 0x38E2B, 0x3A2FF, 0x3A32B, 0x3E218, 0x3F02B, 0x4001B,
   0x485A1, 0x4871B, 0x530FF, 0x53105, 0x557FF, 0x55905, 0x58BFF, 0x58D05, 0x590FF, 0x59132,
   0x5C8FF, 0x5D032, 0x5EBFF, 0x5EF32, 0x5F5FF, 0x60003, 0x605A2, 0x60603, 0x60CA2, 0x60D03,
   0x61BA2, 0x61C03, 0x61FA2, 0x62003, 0x640A2, 0x64103, 0x64BA1, 0x65603, 0x670A1, 0x67103,
   0x6DDA2, 0x6DE03, 0x70086, 0x70EFF, 0x70F86, 0x74BFF, 0x74D86, 0x75003, 0x78091, 0x7B2FF,
   0x7C062, 0x7FBFF, 0x7FD62, 0x80077, 0x82EFF, 0x83077, 0x83FFF, 0x8404F, 0x85CFF, 0x85E4F,
   0x85FFF, 0x86086, 0x86BFF, 0x87003, 0x88FFF, 0x89003, 0x892FF, 0x89803, 0x8E2A2, 0x8E303,
   0x9001C, 0x951A1, 0x9551C, 0x964A2, 0x9661C, 0x9800B, 0x984FF, 0x9850B, 0x98DFF, 0x98F0B,
   0x991FF, 0x9930B, 0x9A9FF, 0x9AA0B, 0x9B1FF, 0x9B20B, 0x9B3FF, 0x9B60B, 0x9BAFF, 0x9BC0B,
   0x9C5FF, 0x9C70B, 0x9C9FF, 0x9CB0B, 0x9CFFF, 0x9D70B, 0x9D8FF, 0x9DC0B, 0x9DEFF, 0x9DF0B,
   0x9E4FF, 0x9E60B, 0x9FFFF, 0xA012D, 0xA04FF, 0xA052D, 0xA0BFF, 0xA0F2D, 0xA11FF, 0xA132D,
   0xA29FF, 0xA2A2D, 0xA31FF, 0xA322D, 0xA34FF, 0xA352D, 0xA37FF, 0xA382D, 0xA3AFF, 0xA3C2D,
   0xA3DFF, 0xA3E2D, 0xA43FF, 0xA472D, 0xA49FF, 0xA4B2D, 0xA4EFF, 0xA512D, 0xA52FF, 0xA592D,
   0xA5DFF, 0xA5E2D, 0xA5FFF, 0xA662D, 0xA77FF, 0xA812C, 0xA84FF, 0xA852C, 0xA8EFF, 0xA8F2C,
   0xA92FF, 0xA932C, 0xAA9FF, 0xAAA2C, 0xAB1FF, 0xAB22C, 0xAB4FF, 0xAB52C, 0xABAFF, 0xABC2C,
   0xAC6FF, 0xAC72C, 0xACAFF, 0xACB2C, 0xACEFF, 0xAD02C, 0xAD1FF, 0xAE02C, 0xAE4FF, 0xAE62C,
   0xAF2FF, 0xAF92C, 0xB00FF, 0xB0167, 0xB04FF, 0xB0567, 0xB0DFF, 0xB0F67, 0xB11FF, 0xB1367,
   0xB29FF, 0xB2A67, 0xB31FF, 0xB3267, 0xB34FF, 0xB3567, 0xB3AFF, 0xB3C67, 0xB45FF, 0xB4767,
   0xB49FF, 0xB4B67, 0xB4EFF, 0xB5567, 0xB58FF, 0xB5C67, 0xB5EFF, 0xB5F67, 0xB64FF, 0xB6667,
   0xB78FF, 0xB828B, 0xB84FF, 0xB858B, 0xB8BFF, 0xB8E8B, 0xB91FF, 0xB928B, 0xB96FF, 0xB998B,
   0xB9BFF, 0xB9C8B, 0xB9DFF, 0xB9E8B, 0xBA0FF, 0xBA38B, 0xBA5FF, 0xBA88B, 0xBABFF, 0xBAE8B,
   0xBBAFF, 0xBBE8B, 0xBC3FF, 0xBC68B, 0xBC9FF, 0xBCA8B, 0xBCEFF, 0xBD08B, 0xBD1FF, 0xBD78B,
   0xBD8FF, 0xBE68B, 0xBFBFF, 0xC008E, 0xC0DFF, 0xC0E8E, 0xC11FF, 0xC128E, 0xC29FF, 0xC2A8E,
   0xC3AFF, 0xC3C8E, 0xC45FF, 0xC468E, 0xC49FF, 0xC4A8E, 0xC4EFF, 0xC558E, 0xC57FF, 0xC588E,
   0xC5BFF, 0xC5D8E, 0xC5EFF, 0xC608E, 0xC64FF, 0xC668E, 0xC70FF, 0xC778E, 0xC8041, 0xC8DFF,
   0xC8E41, 0xC91FF, 0xC9241, 0xCA9FF, 0xCAA41, 0xCB4FF, 0xCB541, 0xCBAFF, 0xCBC41, 0xCC5FF,
   0xCC641, 0xCC9FF, 0xCCA41, 0xCCEFF, 0xCD541, 0xCD7FF, 0xCDD41, 0xCDFFF, 0xCE041, 0xCE4FF,
   0xCE641, 0xCF0FF, 0xCF141, 0xCF4FF, 0xD0056, 0xD0DFF, 0xD0E56, 0xD11FF, 0xD1256, 0xD45FF,
   0xD4656, 0xD49FF, 0xD4A56, 0xD50FF, 0xD5456, 0xD64FF, 0xD6656, 0xD80FF, 0xD817F, 0xD84FF,
   0xD857F, 0xD97FF, 0xD9A7F, 0xDB2FF, 0xDB37F, 0xDBCFF, 0xDBD7F, 0xDBEFF, 0xDC07F, 0xDC7FF,
   0xDCA7F, 0xDCBFF, 0xDCF7F, 0xDD5FF, 0xDD67F, 0xDD7FF, 0xDD87F, 0xDE0FF, 0xDE67F, 0xDF0FF,
   0xDF27F, 0xDF5FF, 0xE0192, 0xE3BFF, 0xE3FA2, 0xE4092, 0xE5CFF, 0xE8144, 0xE83FF, 0xE8444,
   0xE85FF, 0xE8644, 0xE8BFF, 0xE8C44, 0xEA4FF, 0xEA544, 0xEA6FF, 0xEA744, 0xEBEFF, 0xEC044,
   0xEC5FF, 0xEC644, 0xEC7FF, 0xEC844, 0xECFFF, 0xED044, 0xEDAFF, 0xEDC44, 0xEE0FF, 0xF0093,
   0xF48FF, 0xF4993, 0xF6DFF, 0xF7193, 0xF98FF, 0xF9993, 0xFBDFF, 0xFBE93, 0xFCDFF, 0xFCE93,
   0xFD5A2, 0xFD993, 0xFDBFF, 0x10005C, 0x10A025, 0x10C6FF, 0x10C725, 0x10C8FF, 0x10CD25,
   0x10CEFF, 0x10D025, 0x10FBA2, 0x10FC25, 0x11002E, 0x120024, 0x1249FF, 0x124A24, 0x124EFF,
   0x125024, 0x1257FF, 0x125824, 0x1259FF, 0x125A24, 0x125EFF, 0x126024, 0x1289FF, 0x128A24,
   0x128EFF, 0x129024, 0x12B1FF, 0x12B224, 0x12B6FF, 0x12B824, 0x12BFFF, 0x12C024, 0x12C1FF,
   0x12C224, 0x12C6FF, 0x12C824, 0x12D7FF, 0x12D824, 0x1311FF, 0x131224, 0x1316FF, 0x131824,
   0x135BFF, 0x135D24, 0x137DFF, 0x138024, 0x139AFF, 0x13A016, 0x13F6FF, 0x13F816, 0x13FEFF,
   0x140013, 0x168064, 0x169DFF, 0x16A076, 0x16EBA2, 0x16EE76, 0x16F9FF, 0x170090, 0x1716FF,
   0x171F90, 0x172030, 0x1735A2, 0x1737FF, 0x174011, 0x1754FF, 0x176087, 0x176DFF, 0x176E87,
   0x1771FF, 0x177287, 0x1774FF, 0x17803E, 0x17DEFF, 0x17E03E, 0x17EAFF, 0x17F03E, 0x17FAFF,
   0x180058, 0x1802A2, 0x180458, 0x1805A2, 0x180658, 0x181AFF, 0x182058, 0x1879FF, 0x188058,
   0x18ABFF, 0x18B013, 0x18F6FF, 0x190047, 0x191FFF, 0x192047, 0x192CFF, 0x193047, 0x193CFF,
   0x194047, 0x1941FF, 0x194447, 0x195089, 0x196EFF, 0x197089, 0x1975FF, 0x19808A, 0x19ACFF,
   0x19B08A, 0x19CAFF, 0x19D08A, 0x19DBFF, 0x19DE8A, 0x19E03E, 0x1A0010, 0x1A1CFF, 0x1A1E10,
   0x1A2043, 0x1A5FFF, 0x1A6043, 0x1A7DFF, 0x1A7F43, 0x1A8AFF, 0x1A9043, 0x1A9AFF, 0x1AA043,
   0x1AAEFF, 0x1AB0A1, 0x1ACFFF, 0x1B0007, 0x1B4DFF, 0x1B5007, 0x1B7FFF, 0x1B8084, 0x1BC00A,
   0x1BF4FF, 0x1BFC0A, 0x1C0046, 0x1C38FF, 0x1C3B46, 0x1C4AFF, 0x1C4D46, 0x1C5065, 0x1C801B,
   0x1C89FF, 0x1C9025, 0x1CBBFF, 0x1CBD25, 0x1CC084, 0x1CC8FF, 0x1CD0A1, 0x1CD3A2, 0x1CD4A1,
   0x1CE1A2, 0x1CE2A1, 0x1CE9A2, 0x1CEDA1, 0x1CEEA2, 0x1CF4A1, 0x1CF5A2, 0x1CF8A1, 0x1CFAA2,
   0x1CFBFF, 0x1D0045, 0x1D262B, 0x1D2B1B, 0x1D2C45, 0x1D5D2B, 0x1D6245, 0x1D662B, 0x1D6B45,
   0x1D781B, 0x1D7945, 0x1DBF2B, 0x1DC0A1, 0x1E0045, 0x1F002B, 0x1F16FF, 0x1F182B, 0x1F1EFF,
   0x1F202B, 0x1F46FF, 0x1F482B, 0x1F4EFF, 0x1F502B, 0x1F58FF, 0x1F592B, 0x1F5AFF, 0x1F5B2B,
   0x1F5CFF, 0x1F5D2B, 0x1F5EFF, 0x1F5F2B, 0x1F7EFF, 0x1F802B, 0x1FB5FF, 0x1FB62B, 0x1FC5FF,
   0x1FC62B, 0x1FD4FF, 0x1FD62B, 0x1FDCFF, 0x1FDD2B, 0x1FF0FF, 0x1FF22B, 0x1FF5FF, 0x1FF62B,
   0x1FFFFF, 0x2000A2, 0x200CA1, 0x200EA2, 0x2065FF, 0x2066A2, 0x207145, 0x2072FF, 0x2074A2,
   0x207F45, 0x2080A2, 0x208FFF, 0x209045, 0x209DFF, 0x20A0A2, 0x20C1FF, 0x20D0A1, 0x20F1FF,
   0x2100A2, 0x21262B, 0x2127A2, 0x212A45, 0x212CA2, 0x213245, 0x2133A2, 0x214E45, 0x214FA2,
   0x216045, 0x2189A2, 0x218CFF, 0x2190A2, 0x2427FF, 0x2440A2, 0x244BFF, 0x2460A2, 0x28000F,
   0x2900A2, 0x2B74FF, 0x2B76A2, 0x2B96FF, 0x2B97A2, 0x2C0026, 0x2C6045, 0x2C8018, 0x2CF4FF,
   0x2CF918, 0x2D0025, 0x2D26FF, 0x2D2725, 0x2D28FF, 0x2D2D25, 0x2D2EFF, 0x2D308F, 0x2D68FF,
   0x2D6F8F, 0x2D71FF, 0x2D7F8F, 0x2D8024, 0x2D97FF, 0x2DA024, 0x2DA7FF, 0x2DA824, 0x2DAFFF,
   0x2DB024, 0x2DB7FF, 0x2DB824, 0x2DBFFF, 0x2DC024, 0x2DC7FF, 0x2DC824, 0x2DCFFF, 0x2DD024,
   0x2DD7FF, 0x2DD824, 0x2DDFFF, 0x2DE01B, 0x2E00A2, 0x2E5EFF, 0x2E802F, 0x2E9AFF, 0x2E9B2F,
   0x2EF4FF, 0x2F002F, 0x2FD6FF, 0x2FF0A2, 0x2FFCFF, 0x3000A2, 0x30052F, 0x3006A2, 0x30072F,
   0x3008A2, 0x30212F, 0x302AA1, 0x302E2E, 0x3030A2, 0x30382F, 0x303CA2, 0x3040FF, 0x304133,
   0x3097FF, 0x3099A1, 0x309BA2, 0x309D33, 0x30A0A2, 0x30A13B, 0x30FBA2, 0x30FD3B, 0x3100FF,
   0x31050D, 0x3130FF, 0x31312E, 0x318FFF, 0x3190A2, 0x31A00D, 0x31C0A2, 0x31E4FF, 0x31F03B,
   0x32002E, 0x321FFF, 0x3220A2, 0x32602E, 0x327FA2, 0x32D03B, 0x32FFA2, 0x33003B, 0x3358A2,
   0x34002F, 0x4DC0A2, 0x4E002F, 0xA0009F, 0xA48DFF, 0xA4909F, 0xA4C7FF, 0xA4D04A, 0xA50098,
   0xA62CFF, 0xA6401B, 0xA6A008, 0xA6F8FF, 0xA700A2, 0xA72245, 0xA788A2, 0xA78B45, 0xA7CBFF,
   0xA7D045, 0xA7D2FF, 0xA7D345, 0xA7D4FF, 0xA7D545, 0xA7DAFF, 0xA7F245, 0xA80085, 0xA82DFF,
   0xA830A2, 0xA83AFF, 0xA8406E, 0xA878FF, 0xA88079, 0xA8C6FF, 0xA8CE79, 0xA8DAFF, 0xA8E01C,
   0xA9003A, 0xA92EA2, 0xA92F3A, 0xA93074, 0xA954FF, 0xA95F74, 0xA9602E, 0xA97DFF, 0xA98039,
   0xA9CEFF, 0xA9CFA2, 0xA9D039, 0xA9DAFF, 0xA9DE39, 0xA9E05C, 0xA9FFFF, 0xAA0015, 0xAA37FF,
   0xAA4015, 0xAA4EFF, 0xAA5015, 0xAA5AFF, 0xAA5C15, 0xAA605C, 0xAA808D, 0xAAC3FF, 0xAADB8D,
   0xAAE05A, 0xAAF7FF, 0xAB0124, 0xAB07FF, 0xAB0924, 0xAB0FFF, 0xAB1124, 0xAB17FF, 0xAB2024,
   0xAB27FF, 0xAB2824, 0xAB2FFF, 0xAB3045, 0xAB5BA2, 0xAB5C45, 0xAB652B, 0xAB6645, 0xAB6AA2,
   0xAB6CFF, 0xAB7016, 0xABC05A, 0xABEEFF, 0xABF05A, 0xABFAFF, 0xAC002E, 0xD7A4FF, 0xD7B02E,
   0xD7C7FF, 0xD7CB2E, 0xD7FCFF, 0xF9002F, 0xFA6EFF, 0xFA702F, 0xFADAFF, 0xFB0045, 0xFB07FF,
   0xFB1305, 0xFB18FF, 0xFB1D32, 0xFB37FF, 0xFB3832, 0xFB3DFF, 0xFB3E32, 0xFB3FFF, 0xFB4032,
   0xFB42FF, 0xFB4332, 0xFB45FF, 0xFB4632, 0xFB5003, 0xFBC3FF, 0xFBD303, 0xFD3EA2, 0xFD4003,
   0xFD90FF, 0xFD9203, 0xFDC8FF, 0xFDCF03, 0xFDD0FF, 0xFDF003, 0xFE00A1, 0xFE10A2, 0xFE1AFF,
   0xFE20A1, 0xFE2E1B, 0xFE30A2, 0xFE53FF, 0xFE54A2, 0xFE67FF, 0xFE68A2, 0xFE6CFF, 0xFE7003,
   0xFE75FF, 0xFE7603, 0xFEFDFF, 0xFEFFA2, 0xFF00FF, 0xFF01A2, 0xFF2145, 0xFF3BA2, 0xFF4145,
   0xFF5BA2, 0xFF663B, 0xFF70A2, 0xFF713B, 0xFF9EA2, 0xFFA02E, 0xFFBFFF, 0xFFC22E, 0xFFC8FF,
   0xFFCA2E, 0xFFD0FF, 0xFFD22E, 0xFFD8FF, 0xFFDA2E, 0xFFDDFF, 0xFFE0A2, 0xFFE7FF, 0xFFE8A2,
   0xFFEFFF, 0xFFF9A2, 0xFFFEFF, 0x1000049, 0x1000CFF, 0x1000D49, 0x10027FF, 0x1002849, 0x1003BFF,
   0x1003C49, 0x1003EFF, 0x1003F49, 0x1004EFF, 0x1005049, 0x1005EFF, 0x1008049, 0x100FBFF,
   0x10100A2, 0x10103FF, 0x10107A2, 0x10134FF, 0x10137A2, 0x101402B, 0x1018FFF, 0x10190A2,
   0x1019DFF, 0x101A02B, 0x101A1FF, 0x101D0A2, 0x101FDA1, 0x101FEFF, 0x102804B, 0x1029DFF,
   0x102A014, 0x102D1FF, 0x102E0A1, 0x102E1A2, 0x102FCFF, 0x1030038, 0x10324FF, 0x1032D38,
   0x1033029, 0x1034BFF, 0x103506D, 0x1037BFF, 0x1038097, 0x1039EFF, 0x1039F97, 0x103A09C,
   0x103C4FF, 0x103C89C, 0x103D6FF, 0x104001F, 0x104507B, 0x1048069, 0x1049EFF, 0x104A069,
   0x104AAFF, 0x104B068, 0x104D4FF, 0x104D868, 0x104FCFF, 0x1050022, 0x10528FF, 0x1053001,
   0x10564FF, 0x1056F01, 0x1057099, 0x1057BFF, 0x1057C99, 0x1058BFF, 0x1058C99, 0x10593FF,
   0x1059499, 0x10596FF, 0x1059799, 0x105A2FF, 0x105A399, 0x105B2FF, 0x105B399, 0x105BAFF,
   0x105BB99, 0x105BDFF, 0x1060048, 0x10737FF, 0x1074048, 0x10756FF, 0x1076048, 0x10768FF,
   0x1078045, 0x10786FF, 0x1078745, 0x107B1FF, 0x107B245, 0x107BBFF, 0x108001A, 0x10806FF,
   0x108081A, 0x10809FF, 0x1080A1A, 0x10836FF, 0x108371A, 0x10839FF, 0x1083C1A, 0x1083DFF,
   0x1083F1A, 0x1084004, 0x10856FF, 0x1085704, 0x108606B, 0x1088060, 0x1089FFF, 0x108A760,
   0x108B0FF, 0x108E031, 0x108F3FF, 0x108F431, 0x108F6FF, 0x108FB31, 0x1090071, 0x1091CFF,
   0x1091F71, 0x109204C, 0x1093AFF, 0x1093F4C, 0x10940FF, 0x1098055, 0x109A054, 0x109B8FF,
   0x109BC54, 0x109D0FF, 0x109D254, 0x10A003D, 0x10A04FF, 0x10A053D, 0x10A07FF, 0x10A0C3D,
   0x10A14FF, 0x10A153D, 0x10A18FF, 0x10A193D, 0x10A36FF, 0x10A383D, 0x10A3BFF, 0x10A3F3D,
   0x10A49FF, 0x10A503D, 0x10A59FF, 0x10A6078, 0x10A805F, 0x10AA0FF, 0x10AC050, 0x10AE7FF,
   0x10AEB50, 0x10AF7FF, 0x10B0006, 0x10B36FF, 0x10B3906, 0x10B4073, 0x10B56FF, 0x10B5873,
   0x10B606F, 0x10B73FF, 0x10B786F, 0x10B8070, 0x10B92FF, 0x10B9970, 0x10B9DFF, 0x10BA970,
   0x10BB0FF, 0x10C0066, 0x10C49FF, 0x10C8037, 0x10CB3FF, 0x10CC037, 0x10CF3FF, 0x10CFA37,
   0x10D0075, 0x10D28FF, 0x10D3075, 0x10D3AFF, 0x10E6003, 0x10E7FFF, 0x10E809E, 0x10EAAFF,
   0x10EAB9E, 0x10EAEFF, 0x10EB09E, 0x10EB2FF, 0x10EFD03, 0x10F0081, 0x10F28FF, 0x10F3080,
   0x10F5AFF, 0x10F706A, 0x10F8AFF, 0x10FB017, 0x10FCCFF, 0x10FE023, 0x10FF7FF, 0x110000E,
   0x1104EFF, 0x110520E, 0x11076FF, 0x1107F0E, 0x1108042, 0x110C3FF, 0x110CD42, 0x110CEFF,
   0x110D082, 0x110E9FF, 0x110F082, 0x110FAFF, 0x1110012, 0x11135FF, 0x1113612, 0x11148FF,
   0x111504D, 0x11177FF, 0x111807C, 0x111E0FF, 0x111E17F, 0x111F5FF, 0x112003F, 0x11212FF,
   0x112133F, 0x11242FF, 0x112805B, 0x11287FF, 0x112885B, 0x11289FF, 0x1128A5B, 0x1128EFF,
   0x1128F5B, 0x1129EFF, 0x1129F5B, 0x112AAFF, 0x112B07E, 0x112EBFF, 0x112F07E, 0x112FAFF,
   0x113002A, 0x11304FF, 0x113052A, 0x1130DFF, 0x1130F2A, 0x11311FF, 0x113132A, 0x11329FF,
   0x1132A2A, 0x11331FF, 0x113322A, 0x11334FF, 0x113352A, 0x1133AFF, 0x1133BA1, 0x1133C2A,
   0x11345FF, 0x113472A, 0x11349FF, 0x1134B2A, 0x1134EFF, 0x113502A, 0x11351FF, 0x113572A,
   0x11358FF, 0x1135D2A, 0x11364FF, 0x113662A, 0x1136DFF, 0x113702A, 0x11375FF, 0x1140061,
   0x1145CFF, 0x1145D61, 0x11462FF, 0x1148094, 0x114C8FF, 0x114D094, 0x114DAFF, 0x115807D,
   0x115B6FF, 0x115B87D, 0x115DEFF, 0x1160057, 0x11645FF, 0x1165057, 0x1165AFF, 0x1166058,
   0x1166DFF, 0x1168088, 0x116BAFF, 0x116C088, 0x116CAFF, 0x1170002, 0x1171BFF, 0x1171D02,
   0x1172CFF, 0x1173002, 0x11747FF, 0x118001E, 0x1183CFF, 0x118A09A, 0x118F3FF, 0x118FF9A,
   0x119001D, 0x11907FF, 0x119091D, 0x1190AFF, 0x1190C1D, 0x11914FF, 0x119151D, 0x11917FF,
   0x119181D, 0x11936FF, 0x119371D, 0x11939FF, 0x1193B1D, 0x11947FF, 0x119501D, 0x1195AFF,
   0x119A05E, 0x119A8FF, 0x119AA5E, 0x119D8FF, 0x119DA5E, 0x119E5FF, 0x11A00A0, 0x11A48FF,
   0x11A5083, 0x11AA3FF, 0x11AB013, 0x11AC06C, 0x11AF9FF, 0x11B001C, 0x11B0AFF, 0x11C000C,
   0x11C09FF, 0x11C0A0C, 0x11C37FF, 0x11C380C, 0x11C46FF, 0x11C500C, 0x11C6DFF, 0x11C7051,
   0x11C90FF, 0x11C9251, 0x11CA8FF, 0x11CA951, 0x11CB7FF, 0x11D0028, 0x11D07FF, 0x11D0828,
   0x11D0AFF, 0x11D0B28, 0x11D37FF, 0x11D3A28, 0x11D3BFF, 0x11D3C28, 0x11D3EFF, 0x11D3F28,
   0x11D48FF, 0x11D5028, 0x11D5AFF, 0x11D6027, 0x11D66FF, 0x11D6727, 0x11D69FF, 0x11D6A27,
   0x11D8FFF, 0x11D9027, 0x11D92FF, 0x11D9327, 0x11D99FF, 0x11DA027, 0x11DAAFF, 0x11EE04E,
   0x11EF9FF, 0x11F003C, 0x11F11FF, 0x11F123C, 0x11F3BFF, 0x11F3E3C, 0x11F5AFF, 0x11FB04A,
   0x11FB1FF, 0x11FC08B, 0x11FF2FF, 0x11FFF8B, 0x120009D, 0x1239AFF, 0x124009D, 0x1246FFF,
   0x124709D, 0x12475FF, 0x124809D, 0x12544FF, 0x12F9019, 0x12FF3FF, 0x1300021, 0x13456FF,
   0x1440034, 0x14647FF, 0x1680008, 0x16A39FF, 0x16A4059, 0x16A5FFF, 0x16A6059, 0x16A6AFF,
   0x16A6E59, 0x16A7095, 0x16ABFFF, 0x16AC095, 0x16ACAFF, 0x16AD009, 0x16AEEFF, 0x16AF009,
   0x16AF6FF, 0x16B0035, 0x16B46FF, 0x16B5035, 0x16B5AFF, 0x16B5B35, 0x16B62FF, 0x16B6335,
   0x16B78FF, 0x16B7D35, 0x16B90FF, 0x16E4052, 0x16E9BFF, 0x16F0072, 0x16F4BFF, 0x16F4F72,
   0x16F88FF, 0x16F8F72, 0x16FA0FF, 0x16FE08C, 0x16FE163, 0x16FE22F, 0x16FE440, 0x16FE5FF,
   0x16FF02F, 0x16FF2FF, 0x170008C, 0x187F8FF, 0x188008C, 0x18B0040, 0x18CD6FF, 0x18D008C,
   0x18D09FF, 0x1AFF03B, 0x1AFF4FF, 0x1AFF53B, 0x1AFFCFF, 0x1AFFD3B, 0x1AFFFFF, 0x1B0003B,
   0x1B00133, 0x1B1203B, 0x1B123FF, 0x1B13233, 0x1B133FF, 0x1B15033, 0x1B153FF, 0x1B1553B,
   0x1B156FF, 0x1B1643B, 0x1B168FF, 0x1B17063, 0x1B2FCFF, 0x1BC0020, 0x1BC6BFF, 0x1BC7020,
   0x1BC7DFF, 0x1BC8020, 0x1BC89FF, 0x1BC9020, 0x1BC9AFF, 0x1BC9C20, 0x1BCA0A2, 0x1BCA4FF,
   0x1CF00A1, 0x1CF2EFF, 0x1CF30A1, 0x1CF47FF, 0x1CF50A2, 0x1CFC4FF, 0x1D000A2, 0x1D0F6FF,
   0x1D100A2, 0x1D127FF, 0x1D129A2, 0x1D167A1, 0x1D16AA2, 0x1D17BA1, 0x1D183A2, 0x1D185A1,
   0x1D18CA2, 0x1D1AAA1, 0x1D1AEA2, 0x1D1EBFF, 0x1D2002B, 0x1D246FF, 0x1D2C0A2, 0x1D2D4FF,
   0x1D2E0A2, 0x1D2F4FF, 0x1D300A2, 0x1D357FF, 0x1D360A2, 0x1D379FF, 0x1D400A2, 0x1D455FF,
   0x1D456A2, 0x1D49DFF, 0x1D49EA2, 0x1D4A0FF, 0x1D4A2A2, 0x1D4A3FF, 0x1D4A5A2, 0x1D4A7FF,
   0x1D4A9A2, 0x1D4ADFF, 0x1D4AEA2, 0x1D4BAFF, 0x1D4BBA2, 0x1D4BCFF, 0x1D4BDA2, 0x1D4C4FF,
   0x1D4C5A2, 0x1D506FF, 0x1D507A2, 0x1D50BFF, 0x1D50DA2, 0x1D515FF, 0x1D516A2, 0x1D51DFF,
   0x1D51EA2, 0x1D53AFF, 0x1D53BA2, 0x1D53FFF, 0x1D540A2, 0x1D545FF, 0x1D546A2, 0x1D547FF,
   0x1D54AA2, 0x1D551FF, 0x1D552A2, 0x1D6A6FF, 0x1D6A8A2, 0x1D7CCFF, 0x1D7CEA2, 0x1D8007A,
   0x1DA8CFF, 0x1DA9B7A, 0x1DAA0FF, 0x1DAA17A, 0x1DAB0FF, 0x1DF0045, 0x1DF1FFF, 0x1DF2545,
   0x1DF2BFF, 0x1E00026, 0x1E007FF, 0x1E00826, 0x1E019FF, 0x1E01B26, 0x1E022FF, 0x1E02326,
   0x1E025FF, 0x1E02626, 0x1E02BFF, 0x1E0301B, 0x1E06EFF, 0x1E08F1B, 0x1E090FF, 0x1E10036,
   0x1E12DFF, 0x1E13036, 0x1E13EFF, 0x1E14036, 0x1E14AFF, 0x1E14E36, 0x1E150FF, 0x1E29096,
   0x1E2AFFF, 0x1E2C09B, 0x1E2FAFF, 0x1E2FF9B, 0x1E300FF, 0x1E4D05D, 0x1E4FAFF, 0x1E7E024,
   0x1E7E7FF, 0x1E7E824, 0x1E7ECFF, 0x1E7ED24, 0x1E7EFFF, 0x1E7F024, 0x1E7FFFF, 0x1E80053,
   0x1E8C5FF, 0x1E8C753, 0x1E8D7FF, 0x1E90000, 0x1E94CFF, 0x1E95000, 0x1E95AFF, 0x1E95E00,
   0x1E960FF, 0x1EC71A2, 0x1ECB5FF, 0x1ED01A2, 0x1ED3EFF, 0x1EE0003, 0x1EE04FF, 0x1EE0503,
   0x1EE20FF, 0x1EE2103, 0x1EE23FF, 0x1EE2403, 0x1EE25FF, 0x1EE2703, 0x1EE28FF, 0x1EE2903,
   0x1EE33FF, 0x1EE3403, 0x1EE38FF, 0x1EE3903, 0x1EE3AFF, 0x1EE3B03, 0x1EE3CFF, 0x1EE4203,
   0x1EE43FF, 0x1EE4703, 0x1EE48FF, 0x1EE4903, 0x1EE4AFF, 0x1EE4B03, 0x1EE4CFF, 0x1EE4D03,
   0x1EE50FF, 0x1EE5103, 0x1EE53FF, 0x1EE5403, 0x1EE55FF, 0x1EE5703, 0x1EE58FF, 0x1EE5903,
   0x1EE5AFF, 0x1EE5B03, 0x1EE5CFF, 0x1EE5D03, 0x1EE5EFF, 0x1EE5F03, 0x1EE60FF, 0x1EE6103,
   0x1EE63FF, 0x1EE6403, 0x1EE65FF, 0x1EE6703, 0x1EE6BFF, 0x1EE6C03, 0x1EE73FF, 0x1EE7403,
   0x1EE78FF, 0x1EE7903, 0x1EE7DFF, 0x1EE7E03, 0x1EE7FFF, 0x1EE8003, 0x1EE8AFF, 0x1EE8B03,
   0x1EE9CFF, 0x1EEA103, 0x1EEA4FF, 0x1EEA503, 0x1EEAAFF, 0x1EEAB03, 0x1EEBCFF, 0x1EEF003,
   0x1EEF2FF, 0x1F000A2, 0x1F02CFF, 0x1F030A2, 0x1F094FF, 0x1F0A0A2, 0x1F0AFFF, 0x1F0B1A2,
   0x1F0C0FF, 0x1F0C1A2, 0x1F0D0FF, 0x1F0D1A2, 0x1F0F6FF, 0x1F100A2, 0x1F1AEFF, 0x1F1E6A2,
   0x1F20033, 0x1F201A2, 0x1F203FF, 0x1F210A2, 0x1F23CFF, 0x1F240A2, 0x1F249FF, 0x1F250A2,
   0x1F252FF, 0x1F260A2, 0x1F266FF, 0x1F300A2, 0x1F6D8FF, 0x1F6DCA2, 0x1F6EDFF, 0x1F6F0A2,
   0x1F6FDFF, 0x1F700A2, 0x1F777FF, 0x1F77BA2, 0x1F7DAFF, 0x1F7E0A2, 0x1F7ECFF, 0x1F7F0A2,
   0x1F7F1FF, 0x1F800A2, 0x1F80CFF, 0x1F810A2, 0x1F848FF, 0x1F850A2, 0x1F85AFF, 0x1F860A2,
   0x1F888FF, 0x1F890A2, 0x1F8AEFF, 0x1F8B0A2, 0x1F8B2FF, 0x1F900A2, 0x1FA54FF, 0x1FA60A2,
   0x1FA6EFF, 0x1FA70A2, 0x1FA7DFF, 0x1FA80A2, 0x1FA89FF, 0x1FA90A2, 0x1FABEFF, 0x1FABFA2,
   0x1FAC6FF, 0x1FACEA2, 0x1FADCFF, 0x1FAE0A2, 0x1FAE9FF, 0x1FAF0A2, 0x1FAF9FF, 0x1FB00A2,
   0x1FB93FF, 0x1FB94A2, 0x1FBCBFF, 0x1FBF0A2, 0x1FBFAFF, 0x200002F, 0x2A6E0FF, 0x2A7002F,
   0x2B73AFF, 0x2B7402F, 0x2B81EFF, 0x2B8202F, 0x2CEA2FF, 0x2CEB02F, 0x2EBE1FF, 0x2F8002F,
   0x2FA1EFF, 0x300002F, 0x3134BFF, 0x313502F, 0x323B0FF, 0xE0001A2, 0xE0002FF, 0xE0020A2,
   0xE0080FF, 0xE0100A1, 0xE01F0FF, 0x110000FF]

/-- The characters of the script with an index. -/
def ofIndex (i : Nat) : CharClass where
  holds c := Runs.valueAt 256 runs c.toNat 255 == i
  points := Runs.starts 256 runs
  holds_congr _ _ h := by rw [Runs.valueAt_congr h]

end Script

/-- The characters of a script, by a comparable name. -/
def scriptOf? (name : String) : Option CharClass :=
  (Script.names.findIdx? (·.contains name)).map Script.ofIndex

end Criteria.Unicode
