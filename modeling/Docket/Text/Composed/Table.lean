/-!
# Composition data

The characters that are made of others, Korean syllables apart. A row gives
the characters from one code point on, each as the character it begins with
and the marks on it.
-/

namespace Docket.Text

/-- First code point, and what it and the ones behind it are made of. -/
def compositeRows : List (Nat × String) :=
  [
    (0xC0, "À Á Â Ã Ä Å"), (0xC7, "Ç È É Ê Ë Ì Í Î Ï"),
    (0xD1, "Ñ Ò Ó Ô Õ Ö"), (0xD9, "Ù Ú Û Ü Ý"), (0xE0, "à á â ã ä å"),
    (0xE7, "ç è é ê ë ì í î ï"), (0xF1, "ñ ò ó ô õ ö"), (0xF9, "ù ú û ü ý"),
    (0xFF, "ÿ Ā ā Ă ă Ą ą Ć ć Ĉ ĉ Ċ ċ Č č Ď ď"),
    (0x112, "Ē ē Ĕ ĕ Ė ė Ę ę Ě ě Ĝ ĝ Ğ ğ Ġ ġ Ģ ģ Ĥ ĥ"),
    (0x128, "Ĩ ĩ Ī ī Ĭ ĭ Į į İ"), (0x134, "Ĵ ĵ Ķ ķ"), (0x139, "Ĺ ĺ Ļ ļ Ľ ľ"),
    (0x143, "Ń ń Ņ ņ Ň ň"), (0x14C, "Ō ō Ŏ ŏ Ő ő"),
    (0x154, "Ŕ ŕ Ŗ ŗ Ř ř Ś ś Ŝ ŝ Ş ş Š š Ţ ţ Ť ť"),
    (0x168, "Ũ ũ Ū ū Ŭ ŭ Ů ů Ű ű Ų ų Ŵ ŵ Ŷ ŷ Ÿ Ź ź Ż ż Ž ž"),
    (0x1A0, "Ơ ơ"), (0x1AF, "Ư ư"),
    (0x1CD, "Ǎ ǎ Ǐ ǐ Ǒ ǒ Ǔ ǔ Ǖ ǖ Ǘ ǘ Ǚ ǚ Ǜ ǜ"),
    (0x1DE, "Ǟ ǟ Ǡ ǡ Ǣ ǣ"), (0x1E6, "Ǧ ǧ Ǩ ǩ Ǫ ǫ Ǭ ǭ Ǯ ǯ ǰ"),
    (0x1F4, "Ǵ ǵ"),
    (0x1F8, "Ǹ ǹ Ǻ ǻ Ǽ ǽ Ǿ ǿ Ȁ ȁ Ȃ ȃ Ȅ ȅ Ȇ ȇ Ȉ ȉ Ȋ ȋ Ȍ ȍ Ȏ ȏ Ȑ ȑ Ȓ"),
    (0x213, "ȓ Ȕ ȕ Ȗ ȗ Ș ș Ț ț"), (0x21E, "Ȟ ȟ"),
    (0x226, "Ȧ ȧ Ȩ ȩ Ȫ ȫ Ȭ ȭ Ȯ ȯ Ȱ ȱ Ȳ ȳ"), (0x385, "΅ Ά"),
    (0x388, "Έ Ή Ί"), (0x38C, "Ό"), (0x38E, "Ύ Ώ ΐ"), (0x3AA, "Ϊ Ϋ ά έ ή ί ΰ"),
    (0x3CA, "ϊ ϋ ό ύ ώ"), (0x3D3, "ϓ ϔ"), (0x400, "Ѐ Ё"), (0x403, "Ѓ"), (0x407, "Ї"),
    (0x40C, "Ќ Ѝ Ў"), (0x419, "Й"), (0x439, "й"), (0x450, "ѐ ё"), (0x453, "ѓ"),
    (0x457, "ї"), (0x45C, "ќ ѝ ў"), (0x476, "Ѷ ѷ"), (0x4C1, "Ӂ ӂ"),
    (0x4D0, "Ӑ ӑ Ӓ ӓ"), (0x4D6, "Ӗ ӗ"), (0x4DA, "Ӛ ӛ Ӝ ӝ Ӟ ӟ"),
    (0x4E2, "Ӣ ӣ Ӥ ӥ Ӧ ӧ"), (0x4EA, "Ӫ ӫ Ӭ ӭ Ӯ ӯ Ӱ ӱ Ӳ ӳ Ӵ ӵ"),
    (0x4F8, "Ӹ ӹ"), (0x622, "آ أ ؤ إ ئ"), (0x6C0, "ۀ"), (0x6C2, "ۂ"), (0x6D3, "ۓ"),
    (0x929, "ऩ"), (0x931, "ऱ"), (0x934, "ऴ"), (0x9CB, "ো ৌ"), (0xB48, "ୈ"),
    (0xB4B, "ୋ ୌ"), (0xB94, "ஔ"), (0xBCA, "ொ ோ ௌ"), (0xC48, "ై"), (0xCC0, "ೀ"),
    (0xCC7, "ೇ ೈ"), (0xCCA, "ೊ ೋ"), (0xD4A, "ൊ ോ ൌ"), (0xDDA, "ේ"), (0xDDC, "ො ෝ ෞ"),
    (0x1026, "ဦ"), (0x1B06, "ᬆ"), (0x1B08, "ᬈ"), (0x1B0A, "ᬊ"), (0x1B0C, "ᬌ"),
    (0x1B0E, "ᬎ"), (0x1B12, "ᬒ"), (0x1B3B, "ᬻ"), (0x1B3D, "ᬽ"), (0x1B40, "ᭀ ᭁ"),
    (0x1B43, "ᭃ"),
    (0x1E00, "Ḁ ḁ Ḃ ḃ Ḅ ḅ Ḇ ḇ Ḉ ḉ Ḋ ḋ Ḍ ḍ Ḏ ḏ Ḑ ḑ Ḓ ḓ Ḕ ḕ Ḗ ḗ Ḙ"),
    (0x1E19, "ḙ Ḛ ḛ Ḝ ḝ Ḟ ḟ Ḡ ḡ Ḣ ḣ Ḥ ḥ Ḧ ḧ Ḩ ḩ Ḫ ḫ Ḭ ḭ Ḯ ḯ Ḱ ḱ Ḳ"),
    (0x1E33, "ḳ Ḵ ḵ Ḷ ḷ Ḹ ḹ Ḻ ḻ Ḽ ḽ Ḿ ḿ Ṁ ṁ Ṃ ṃ Ṅ ṅ Ṇ ṇ Ṉ ṉ Ṋ ṋ Ṍ"),
    (0x1E4D, "ṍ Ṏ ṏ Ṑ ṑ Ṓ ṓ Ṕ ṕ Ṗ ṗ Ṙ ṙ Ṛ ṛ Ṝ ṝ Ṟ ṟ Ṡ ṡ Ṣ ṣ Ṥ"),
    (0x1E65, "ṥ Ṧ ṧ Ṩ ṩ Ṫ ṫ Ṭ ṭ Ṯ ṯ Ṱ ṱ Ṳ ṳ Ṵ ṵ Ṷ ṷ Ṹ ṹ Ṻ ṻ Ṽ"),
    (0x1E7D, "ṽ Ṿ ṿ Ẁ ẁ Ẃ ẃ Ẅ ẅ Ẇ ẇ Ẉ ẉ Ẋ ẋ Ẍ ẍ Ẏ ẏ Ẑ ẑ Ẓ ẓ Ẕ ẕ ẖ ẗ"),
    (0x1E98, "ẘ ẙ"), (0x1E9B, "ẛ"),
    (0x1EA0, "Ạ ạ Ả ả Ấ ấ Ầ ầ Ẩ ẩ Ẫ ẫ Ậ ậ Ắ ắ Ằ ằ Ẳ ẳ Ẵ"),
    (0x1EB5, "ẵ Ặ ặ Ẹ ẹ Ẻ ẻ Ẽ ẽ Ế ế Ề ề Ể ể Ễ ễ Ệ ệ Ỉ ỉ Ị ị"),
    (0x1ECC, "Ọ ọ Ỏ ỏ Ố ố Ồ ồ Ổ ổ Ỗ ỗ Ộ ộ Ớ ớ Ờ ờ Ở ở Ỡ"),
    (0x1EE1, "ỡ Ợ ợ Ụ ụ Ủ ủ Ứ ứ Ừ ừ Ử ử Ữ ữ Ự ự Ỳ ỳ Ỵ ỵ Ỷ ỷ"),
    (0x1EF8, "Ỹ ỹ"),
    (0x1F00, "ἀ ἁ ἂ ἃ ἄ ἅ ἆ ἇ Ἀ Ἁ Ἂ Ἃ Ἄ Ἅ Ἆ Ἇ ἐ ἑ ἒ ἓ ἔ ἕ"),
    (0x1F18, "Ἐ Ἑ Ἒ Ἓ Ἔ Ἕ"),
    (0x1F20, "ἠ ἡ ἢ ἣ ἤ ἥ ἦ ἧ Ἠ Ἡ Ἢ Ἣ Ἤ Ἥ Ἦ Ἧ ἰ ἱ ἲ ἳ ἴ ἵ"),
    (0x1F36, "ἶ ἷ Ἰ Ἱ Ἲ Ἳ Ἴ Ἵ Ἶ Ἷ ὀ ὁ ὂ ὃ ὄ ὅ"),
    (0x1F48, "Ὀ Ὁ Ὂ Ὃ Ὄ Ὅ"), (0x1F50, "ὐ ὑ ὒ ὓ ὔ ὕ ὖ ὗ"), (0x1F59, "Ὑ"),
    (0x1F5B, "Ὓ"), (0x1F5D, "Ὕ"),
    (0x1F5F, "Ὗ ὠ ὡ ὢ ὣ ὤ ὥ ὦ ὧ Ὠ Ὡ Ὢ Ὣ Ὤ Ὥ Ὦ Ὧ ὰ"),
    (0x1F72, "ὲ"), (0x1F74, "ὴ"), (0x1F76, "ὶ"), (0x1F78, "ὸ"), (0x1F7A, "ὺ"),
    (0x1F7C, "ὼ"),
    (0x1F80, "ᾀ ᾁ ᾂ ᾃ ᾄ ᾅ ᾆ ᾇ ᾈ ᾉ ᾊ ᾋ ᾌ ᾍ ᾎ ᾏ ᾐ"),
    (0x1F91, "ᾑ ᾒ ᾓ ᾔ ᾕ ᾖ ᾗ ᾘ ᾙ ᾚ ᾛ ᾜ ᾝ ᾞ ᾟ ᾠ ᾡ"),
    (0x1FA2, "ᾢ ᾣ ᾤ ᾥ ᾦ ᾧ ᾨ ᾩ ᾪ ᾫ ᾬ ᾭ ᾮ ᾯ ᾰ ᾱ ᾲ ᾳ"),
    (0x1FB4, "ᾴ"), (0x1FB6, "ᾶ ᾷ Ᾰ Ᾱ Ὰ"), (0x1FBC, "ᾼ"), (0x1FC1, "῁ ῂ ῃ ῄ"),
    (0x1FC6, "ῆ ῇ Ὲ"), (0x1FCA, "Ὴ"), (0x1FCC, "ῌ ῍ ῎ ῏ ῐ ῑ ῒ"),
    (0x1FD6, "ῖ ῗ Ῐ Ῑ Ὶ"), (0x1FDD, "῝ ῞ ῟ ῠ ῡ ῢ"),
    (0x1FE4, "ῤ ῥ ῦ ῧ Ῠ Ῡ Ὺ"), (0x1FEC, "Ῥ ῭"), (0x1FF2, "ῲ ῳ ῴ"),
    (0x1FF6, "ῶ ῷ Ὸ"), (0x1FFA, "Ὼ"), (0x1FFC, "ῼ"), (0x219A, "↚ ↛"), (0x21AE, "↮"),
    (0x21CD, "⇍ ⇎ ⇏"), (0x2204, "∄"), (0x2209, "∉"), (0x220C, "∌"), (0x2224, "∤"),
    (0x2226, "∦"), (0x2241, "≁"), (0x2244, "≄"), (0x2247, "≇"), (0x2249, "≉"),
    (0x2260, "≠"), (0x2262, "≢"), (0x226D, "≭ ≮ ≯ ≰ ≱"), (0x2274, "≴ ≵"),
    (0x2278, "≸ ≹"), (0x2280, "⊀ ⊁"), (0x2284, "⊄ ⊅"), (0x2288, "⊈ ⊉"),
    (0x22AC, "⊬ ⊭ ⊮ ⊯"), (0x22E0, "⋠ ⋡ ⋢ ⋣"), (0x22EA, "⋪ ⋫ ⋬ ⋭"), (0x304C, "が"),
    (0x304E, "ぎ"), (0x3050, "ぐ"), (0x3052, "げ"), (0x3054, "ご"), (0x3056, "ざ"),
    (0x3058, "じ"), (0x305A, "ず"), (0x305C, "ぜ"), (0x305E, "ぞ"), (0x3060, "だ"),
    (0x3062, "ぢ"), (0x3065, "づ"), (0x3067, "で"), (0x3069, "ど"), (0x3070, "ば ぱ"),
    (0x3073, "び ぴ"), (0x3076, "ぶ ぷ"), (0x3079, "べ ぺ"), (0x307C, "ぼ ぽ"), (0x3094, "ゔ"),
    (0x309E, "ゞ"), (0x30AC, "ガ"), (0x30AE, "ギ"), (0x30B0, "グ"), (0x30B2, "ゲ"),
    (0x30B4, "ゴ"), (0x30B6, "ザ"), (0x30B8, "ジ"), (0x30BA, "ズ"), (0x30BC, "ゼ"),
    (0x30BE, "ゾ"), (0x30C0, "ダ"), (0x30C2, "ヂ"), (0x30C5, "ヅ"), (0x30C7, "デ"),
    (0x30C9, "ド"), (0x30D0, "バ パ"), (0x30D3, "ビ ピ"), (0x30D6, "ブ プ"), (0x30D9, "ベ ペ"),
    (0x30DC, "ボ ポ"), (0x30F4, "ヴ"), (0x30F7, "ヷ ヸ ヹ ヺ"), (0x30FE, "ヾ"), (0x105C9, "𐗉"),
    (0x105E4, "𐗤"), (0x1109A, "𑂚"), (0x1109C, "𑂜"), (0x110AB, "𑂫"), (0x1112E, "𑄮 𑄯"),
    (0x1134B, "𑍋 𑍌"), (0x11383, "𑎃"), (0x11385, "𑎅"), (0x1138E, "𑎎"), (0x11391, "𑎑"),
    (0x113C5, "𑏅"), (0x113C7, "𑏇 𑏈"), (0x114BB, "𑒻 𑒼"), (0x114BE, "𑒾"), (0x115BA, "𑖺 𑖻"),
    (0x11938, "𑤸"), (0x16121, "𖄡 𖄢 𖄣 𖄤 𖄥 𖄦 𖄧 𖄨"), (0x16D68, "𖵨 𖵩 𖵪") ]

end Docket.Text
