/-!
# Table of characters with more than one script

Most characters are used with the script they belong to. This table lists those of Unicode 16 that are used with others, or with others
too.
-/

namespace ModelCatalog.Text

/-- The scripts, by name, that the characters from `first` to `last` are used with. -/
structure ScriptUse where
  first : Nat
  last : Nat
  scripts : List String

/-- The characters whose use differs from the script they belong to, in ascending order. -/
def scriptUses : List ScriptUse := [
  ⟨0xB7, 0xB7, ["avst", "cari", "copt", "dupl", "elba", "geor", "glag", "goth", "grek", "gong", "hani", "latn", "lydi", "mahj",
    "perm", "shaw"]⟩,
  ⟨0x2BC, 0x2BC, ["beng", "cyrl", "deva", "latn", "lisu", "thai", "toto"]⟩, ⟨0x2C7, 0x2C7, ["bopo", "latn"]⟩,
  ⟨0x2C9, 0x2CB, ["bopo", "latn"]⟩, ⟨0x2CD, 0x2CD, ["latn", "lisu"]⟩, ⟨0x2D7, 0x2D7, ["latn", "thai"]⟩,
  ⟨0x2D9, 0x2D9, ["bopo", "latn"]⟩, ⟨0x300, 0x300, ["cher", "copt", "cyrl", "grek", "latn", "perm", "sunu", "tale"]⟩,
  ⟨0x301, 0x301, ["cher", "cyrl", "grek", "latn", "osge", "sunu", "tale", "todr"]⟩,
  ⟨0x302, 0x302, ["cher", "cyrl", "latn", "tfng"]⟩, ⟨0x303, 0x303, ["glag", "latn", "sunu", "syrc", "thai"]⟩,
  ⟨0x304, 0x304, ["aghb", "cher", "copt", "cyrl", "goth", "grek", "latn", "osge", "syrc", "tfng", "todr"]⟩,
  ⟨0x305, 0x305, ["copt", "elba", "glag", "goth", "kana", "latn"]⟩, ⟨0x306, 0x306, ["cyrl", "grek", "latn", "perm"]⟩,
  ⟨0x307, 0x307, ["copt", "dupl", "hebr", "latn", "perm", "syrc", "tale", "tfng", "todr"]⟩,
  ⟨0x308, 0x308, ["armn", "cyrl", "dupl", "goth", "grek", "hebr", "latn", "perm", "syrc", "tale"]⟩,
  ⟨0x309, 0x309, ["latn", "tfng"]⟩, ⟨0x30A, 0x30A, ["dupl", "latn", "syrc"]⟩, ⟨0x30B, 0x30B, ["cher", "cyrl", "latn", "osge"]⟩,
  ⟨0x30C, 0x30C, ["cher", "latn", "tale"]⟩, ⟨0x30D, 0x30D, ["latn", "sunu"]⟩, ⟨0x30E, 0x30E, ["ethi", "latn"]⟩,
  ⟨0x310, 0x310, ["latn", "sunu"]⟩, ⟨0x311, 0x311, ["cyrl", "latn", "todr"]⟩, ⟨0x313, 0x313, ["grek", "latn", "perm", "todr"]⟩,
  ⟨0x320, 0x320, ["latn", "syrc"]⟩, ⟨0x323, 0x323, ["cher", "dupl", "kana", "latn", "syrc"]⟩,
  ⟨0x324, 0x324, ["cher", "dupl", "latn", "syrc"]⟩, ⟨0x325, 0x325, ["latn", "syrc"]⟩, ⟨0x32D, 0x32D, ["latn", "sunu", "syrc"]⟩,
  ⟨0x32E, 0x32E, ["latn", "syrc"]⟩, ⟨0x330, 0x330, ["cher", "latn", "syrc"]⟩,
  ⟨0x331, 0x331, ["aghb", "cher", "goth", "latn", "sunu", "thai"]⟩, ⟨0x342, 0x342, ["grek"]⟩, ⟨0x345, 0x345, ["grek"]⟩,
  ⟨0x358, 0x358, ["latn", "osge"]⟩, ⟨0x35E, 0x35E, ["aghb", "latn", "todr"]⟩, ⟨0x363, 0x36F, ["latn"]⟩,
  ⟨0x374, 0x375, ["copt", "grek"]⟩, ⟨0x483, 0x483, ["cyrl", "perm"]⟩, ⟨0x484, 0x484, ["cyrl", "glag"]⟩,
  ⟨0x485, 0x486, ["cyrl", "latn"]⟩, ⟨0x487, 0x487, ["cyrl", "glag"]⟩, ⟨0x589, 0x589, ["armn", "geor", "glag"]⟩,
  ⟨0x60C, 0x60C, ["arab", "gara", "rohg", "nkoo", "syrc", "thaa", "yezi"]⟩,
  ⟨0x61B, 0x61B, ["arab", "gara", "rohg", "nkoo", "syrc", "thaa", "yezi"]⟩, ⟨0x61C, 0x61C, ["arab", "syrc", "thaa"]⟩,
  ⟨0x61F, 0x61F, ["adlm", "arab", "gara", "rohg", "nkoo", "syrc", "thaa", "yezi"]⟩,
  ⟨0x640, 0x640, ["adlm", "arab", "rohg", "mand", "mani", "ougr", "phlp", "sogd", "syrc"]⟩, ⟨0x64B, 0x655, ["arab", "syrc"]⟩,
  ⟨0x660, 0x669, ["arab", "thaa", "yezi"]⟩, ⟨0x670, 0x670, ["arab", "syrc"]⟩, ⟨0x6D4, 0x6D4, ["arab", "rohg"]⟩,
  ⟨0x951, 0x951, ["beng", "deva", "gran", "gujr", "guru", "knda", "latn", "mlym", "orya", "shrd", "taml", "telu", "tirh"]⟩,
  ⟨0x952, 0x952, ["beng", "deva", "gran", "gujr", "guru", "knda", "latn", "mlym", "orya", "taml", "telu", "tirh"]⟩,
  ⟨0x964, 0x964, ["beng", "deva", "dogr", "gran", "gujr", "gong", "guru", "knda", "sind", "mahj", "mlym", "gonm", "nand", "onao",
    "orya", "sinh", "sylo", "takr", "taml", "telu", "tirh"]⟩,
  ⟨0x965, 0x965, ["beng", "deva", "dogr", "gran", "gujr", "gong", "guru", "gukh", "knda", "sind", "limb", "mahj", "mlym", "gonm",
    "nand", "onao", "orya", "sinh", "sylo", "takr", "taml", "telu", "tirh"]⟩,
  ⟨0x966, 0x96F, ["deva", "dogr", "kthi", "mahj"]⟩, ⟨0x9E6, 0x9EF, ["beng", "cakm", "sylo"]⟩, ⟨0xA66, 0xA6F, ["guru", "mult"]⟩,
  ⟨0xAE6, 0xAEF, ["gujr", "khoj"]⟩, ⟨0xBE6, 0xBF3, ["gran", "taml"]⟩, ⟨0xCE6, 0xCEF, ["knda", "nand", "tutg"]⟩,
  ⟨0x1040, 0x1049, ["cakm", "mymr", "tale"]⟩, ⟨0x10FB, 0x10FB, ["geor", "glag", "latn"]⟩, ⟨0x16EB, 0x16ED, ["runr"]⟩,
  ⟨0x1735, 0x1736, ["buhd", "hano", "tglg", "tagb"]⟩, ⟨0x1802, 0x1803, ["mong", "phag"]⟩, ⟨0x1805, 0x1805, ["mong", "phag"]⟩,
  ⟨0x1CD0, 0x1CD0, ["beng", "deva", "gran", "knda"]⟩, ⟨0x1CD1, 0x1CD1, ["deva"]⟩,
  ⟨0x1CD2, 0x1CD2, ["beng", "deva", "gran", "knda"]⟩, ⟨0x1CD3, 0x1CD3, ["deva", "gran", "knda"]⟩, ⟨0x1CD4, 0x1CD4, ["deva"]⟩,
  ⟨0x1CD5, 0x1CD6, ["beng", "deva"]⟩, ⟨0x1CD7, 0x1CD7, ["deva", "shrd"]⟩, ⟨0x1CD8, 0x1CD8, ["beng", "deva"]⟩,
  ⟨0x1CD9, 0x1CD9, ["deva", "shrd"]⟩, ⟨0x1CDA, 0x1CDA, ["deva", "knda", "mlym", "orya", "taml", "telu"]⟩,
  ⟨0x1CDB, 0x1CDB, ["deva"]⟩, ⟨0x1CDC, 0x1CDD, ["deva", "shrd"]⟩, ⟨0x1CDE, 0x1CDF, ["deva"]⟩, ⟨0x1CE0, 0x1CE0, ["deva", "shrd"]⟩,
  ⟨0x1CE1, 0x1CE1, ["beng", "deva"]⟩, ⟨0x1CE2, 0x1CE8, ["deva"]⟩, ⟨0x1CE9, 0x1CE9, ["deva", "nand"]⟩,
  ⟨0x1CEA, 0x1CEA, ["beng", "deva"]⟩, ⟨0x1CEB, 0x1CEC, ["deva"]⟩, ⟨0x1CED, 0x1CED, ["beng", "deva"]⟩, ⟨0x1CEE, 0x1CF1, ["deva"]⟩,
  ⟨0x1CF2, 0x1CF2, ["beng", "deva", "gran", "knda", "mlym", "nand", "orya", "sinh", "telu", "tirh", "tutg"]⟩,
  ⟨0x1CF3, 0x1CF3, ["deva", "gran"]⟩, ⟨0x1CF4, 0x1CF4, ["deva", "gran", "knda", "tutg"]⟩, ⟨0x1CF5, 0x1CF6, ["beng", "deva"]⟩,
  ⟨0x1CF7, 0x1CF7, ["beng"]⟩, ⟨0x1CF8, 0x1CF9, ["deva", "gran"]⟩, ⟨0x1CFA, 0x1CFA, ["nand"]⟩, ⟨0x1DC0, 0x1DC1, ["grek"]⟩,
  ⟨0x1DF8, 0x1DF8, ["cyrl", "latn", "syrc"]⟩, ⟨0x1DFA, 0x1DFA, ["syrc"]⟩, ⟨0x202F, 0x202F, ["latn", "mong", "phag"]⟩,
  ⟨0x204F, 0x204F, ["adlm", "arab"]⟩, ⟨0x205A, 0x205A, ["cari", "geor", "glag", "lyci", "hung", "orkh"]⟩,
  ⟨0x205D, 0x205D, ["cari", "grek", "mero", "hung"]⟩, ⟨0x20F0, 0x20F0, ["deva", "gran", "latn"]⟩,
  ⟨0x2E17, 0x2E17, ["copt", "latn"]⟩, ⟨0x2E30, 0x2E30, ["avst", "orkh"]⟩,
  ⟨0x2E31, 0x2E31, ["avst", "cari", "geor", "kthi", "lydi", "hung", "samr"]⟩, ⟨0x2E3C, 0x2E3C, ["dupl"]⟩,
  ⟨0x2E41, 0x2E41, ["adlm", "arab", "hung"]⟩, ⟨0x2E43, 0x2E43, ["cyrl", "glag"]⟩, ⟨0x2FF0, 0x2FFF, ["hani", "tang"]⟩,
  ⟨0x3001, 0x3001, ["bopo", "hani", "hang", "hira", "kana", "mong", "yiii"]⟩,
  ⟨0x3002, 0x3002, ["bopo", "hani", "hang", "hira", "kana", "mong", "phag", "yiii"]⟩,
  ⟨0x3003, 0x3003, ["bopo", "hani", "hang", "hira", "kana"]⟩, ⟨0x3006, 0x3006, ["hani"]⟩,
  ⟨0x3008, 0x3009, ["bopo", "hani", "hang", "hira", "kana", "mong", "tibt", "yiii"]⟩,
  ⟨0x300A, 0x300B, ["bopo", "hani", "hang", "hira", "kana", "lisu", "mong", "tibt", "yiii"]⟩,
  ⟨0x300C, 0x3011, ["bopo", "hani", "hang", "hira", "kana", "yiii"]⟩, ⟨0x3013, 0x3013, ["bopo", "hani", "hang", "hira", "kana"]⟩,
  ⟨0x3014, 0x301B, ["bopo", "hani", "hang", "hira", "kana", "yiii"]⟩, ⟨0x301C, 0x301F, ["bopo", "hani", "hang", "hira", "kana"]⟩,
  ⟨0x302A, 0x302D, ["bopo", "hani"]⟩, ⟨0x3030, 0x3030, ["bopo", "hani", "hang", "hira", "kana"]⟩,
  ⟨0x3031, 0x3035, ["hira", "kana"]⟩, ⟨0x3037, 0x3037, ["bopo", "hani", "hang", "hira", "kana"]⟩,
  ⟨0x303C, 0x303D, ["hani", "hira", "kana"]⟩, ⟨0x303E, 0x303F, ["hani"]⟩, ⟨0x3099, 0x309C, ["hira", "kana"]⟩,
  ⟨0x30A0, 0x30A0, ["hira", "kana"]⟩, ⟨0x30FB, 0x30FB, ["bopo", "hani", "hang", "hira", "kana", "yiii"]⟩,
  ⟨0x30FC, 0x30FC, ["hira", "kana"]⟩, ⟨0x3190, 0x319F, ["hani"]⟩, ⟨0x31C0, 0x31E5, ["hani"]⟩, ⟨0x31EF, 0x31EF, ["hani", "tang"]⟩,
  ⟨0x3220, 0x3247, ["hani"]⟩, ⟨0x3280, 0x32B0, ["hani"]⟩, ⟨0x32C0, 0x32CB, ["hani"]⟩, ⟨0x32FF, 0x32FF, ["hani"]⟩,
  ⟨0x3358, 0x3370, ["hani"]⟩, ⟨0x337B, 0x337F, ["hani"]⟩, ⟨0x33E0, 0x33FE, ["hani"]⟩, ⟨0xA66F, 0xA66F, ["cyrl", "glag"]⟩,
  ⟨0xA700, 0xA707, ["hani", "latn"]⟩,
  ⟨0xA830, 0xA832, ["deva", "dogr", "gujr", "guru", "kthi", "knda", "khoj", "sind", "mahj", "mlym", "modi", "nand", "shrd", "takr",
    "tirh", "tutg"]⟩,
  ⟨0xA833, 0xA835, ["deva", "dogr", "gujr", "guru", "kthi", "knda", "khoj", "sind", "mahj", "modi", "nand", "shrd", "takr", "tirh",
    "tutg"]⟩,
  ⟨0xA836, 0xA837, ["deva", "dogr", "gujr", "guru", "kthi", "khoj", "sind", "mahj", "modi", "takr", "tirh"]⟩,
  ⟨0xA838, 0xA838, ["deva", "dogr", "gujr", "guru", "kthi", "khoj", "sind", "mahj", "modi", "shrd", "takr", "tirh"]⟩,
  ⟨0xA839, 0xA839, ["deva", "dogr", "gujr", "guru", "kthi", "khoj", "sind", "mahj", "modi", "takr", "tirh"]⟩,
  ⟨0xA8F1, 0xA8F1, ["beng", "deva", "tutg"]⟩, ⟨0xA8F3, 0xA8F3, ["deva", "taml"]⟩, ⟨0xA92E, 0xA92E, ["kali", "latn", "mymr"]⟩,
  ⟨0xA9CF, 0xA9CF, ["bugi", "java"]⟩, ⟨0xFD3E, 0xFD3F, ["arab", "nkoo"]⟩, ⟨0xFDF2, 0xFDF2, ["arab", "thaa"]⟩,
  ⟨0xFDFD, 0xFDFD, ["arab", "thaa"]⟩, ⟨0xFE45, 0xFE46, ["bopo", "hani", "hang", "hira", "kana"]⟩,
  ⟨0xFF61, 0xFF65, ["bopo", "hani", "hang", "hira", "kana", "yiii"]⟩, ⟨0xFF70, 0xFF70, ["hira", "kana"]⟩,
  ⟨0xFF9E, 0xFF9F, ["hira", "kana"]⟩, ⟨0x10100, 0x10101, ["cprt", "cpmn", "linb"]⟩, ⟨0x10102, 0x10102, ["cprt", "linb"]⟩,
  ⟨0x10107, 0x10133, ["cprt", "lina", "linb"]⟩, ⟨0x10137, 0x1013F, ["cprt", "linb"]⟩, ⟨0x102E0, 0x102FB, ["arab", "copt"]⟩,
  ⟨0x10AF2, 0x10AF2, ["mani", "ougr"]⟩, ⟨0x11301, 0x11301, ["gran", "taml"]⟩, ⟨0x11303, 0x11303, ["gran", "taml"]⟩,
  ⟨0x1133B, 0x1133C, ["gran", "taml"]⟩, ⟨0x11FD0, 0x11FD1, ["gran", "taml"]⟩, ⟨0x11FD3, 0x11FD3, ["gran", "taml"]⟩,
  ⟨0x1BCA0, 0x1BCA3, ["dupl"]⟩, ⟨0x1D360, 0x1D371, ["hani"]⟩, ⟨0x1F250, 0x1F251, ["hani"]⟩]

end ModelCatalog.Text
