/-! What characters stand for in a domain name: forms of letters and digits stand for the plain
ones, and squares and ligatures for what they hold. Most capital letters are not among them. -/
namespace Curator.DomainCharacter

/-- Runs of characters that stand for one character each: the first of the run, and what it and
those behind it stand for. -/
def singleImages : List (Nat × String) :=
  [(0xA0, " "), (0xAA, "a"), (0xB2, "23"), (0xB5, "μ"), (0xB9, "1o"), (0x17F, "s"),
   (0x2B0, "hɦjrɹɻʁwy"), (0x2E0, "ɣlsxʕ"), (0x345, "ι"), (0x3D0, "βθυύϋφπ"), (0x3F0, "κρσ"),
   (0x3F5, "ε"), (0x3F9, "σ"), (0xF0C, "་"), (0x10FC, "ნ"), (0x13F8, "ᏰᏱᏲᏳᏴᏵ"),
   (0x1C80, "вдосттъѣꙋ"), (0x1D2C, "aæb"), (0x1D30, "deǝghijklmn"), (0x1D3C, "oȣprtuwaɐɑᴂbdeəɛɜg"),
   (0x1D4F, "kmŋoɔᴖᴗptuᴝɯvᴥβγδφχiruvβγρφχ"), (0x1D78, "н"),
   (0x1D9B, "ɒcɕðɜfɟɡɥɨɩɪᵻʝɭᶅʟɱɰɲɳɴɵɸʂʃƫʉʊᴜʋʌzʐʑʒθ"), (0x1E9B, "ṡ"), (0x1FBB, "ά"), (0x1FC9, "έ"),
   (0x1FCB, "ή"), (0x1FDB, "ί"), (0x1FEB, "ύ"), (0x1FF9, "ό"), (0x1FFB, "ώ"),
   (0x2000, "           "), (0x2011, "‐"), (0x202F, " "), (0x205F, " "), (0x2070, "0i"),
   (0x2074, "456789+−=()n0123456789+−=()"), (0x2090, "aeoxəhklmnpst"), (0x2102, "c"), (0x2107, "ɛ"),
   (0x210A, "ghhhhħiill"), (0x2115, "n"), (0x2119, "pqrrr"), (0x2124, "z"), (0x2128, "z"),
   (0x212C, "bc"), (0x212F, "eef"), (0x2133, "mo\u05d0\u05d1\u05d2\u05d3i"), (0x213C, "πγγπ∑"),
   (0x2145, "ddeij"), (0x2160, "i"), (0x2164, "v"), (0x2169, "x"), (0x216C, "lcdmi"), (0x2174, "v"),
   (0x2179, "x"), (0x217C, "lcdm"), (0x2460, "123456789"),
   (0x24B6, "abcdefghijklmnopqrstuvwxyzabcdefghijklmnopqrstuvwxyz0"), (0x2C7C, "jv"), (0x2D6F, "ⵡ"),
   (0x2E9F, "母"), (0x2EF3, "龟"),
   (0x2F00, "一丨丶丿乙亅二亠人儿入八冂冖冫几凵刀力勹匕匚匸十卜卩厂厶又口囗土士夂夊夕大女子宀寸小尢尸屮山巛工己巾干幺广廴廾弋弓彐彡彳心戈戶手支攴文斗斤方无日曰月木欠止歹"),
   (0x2F4E, "殳毋比毛氏气水火爪父爻爿片牙牛犬玄玉瓜瓦甘生用田疋疒癶白皮皿目矛矢石示禸禾穴立竹米糸缶网羊羽老而耒耳聿肉臣自至臼舌舛舟艮色艸虍虫血行衣襾見角言谷豆豕豸貝赤走"),
   (0x2F9C, "足身車辛辰辵邑酉釆里金長門阜隶隹雨靑非面革韋韭音頁風飛食首香馬骨高髟鬥鬯鬲鬼魚鳥鹵鹿麥麻黃黍黑黹黽鼎鼓鼠鼻齊齒龍龜龠"), (0x3000, " "),
   (0x3002, "."), (0x3036, "〒"), (0x3038, "十卄卅"),
   (0x3131, "ᄀᄁᆪᄂᆬᆭᄃᄄᄅᆰᆱᆲᆳᆴᆵᄚᄆᄇᄈᄡᄉᄊᄋᄌᄍᄎᄏᄐᄑ하ᅢᅣᅤᅥᅦᅧᅨᅩᅪᅫᅬᅭᅮᅯᅰᅱᅲᅳᅴᅵ"),
   (0x3165, "ᄔᄕᇇᇈᇌᇎᇓᇗᇙᄜᇝᇟᄝᄞᄠᄢᄣᄧᄩᄫᄬᄭᄮᄯᄲᄶᅀᅇᅌᇱᇲᅗᅘᅙᆄᆅᆈᆑᆒᆔᆞᆡ"), (0x3192, "一二三四上中下甲乙丙丁天地人"),
   (0x3244, "問幼文箏"), (0x3260, "ᄀᄂᄃᄅᄆᄇᄉᄋᄌᄎᄏᄐᄑᄒ가나다라마바사아자차카타파하"), (0x327E, "우"),
   (0x3280, "一二三四五六七八九十月火水木金土日株有社名特財祝労秘男女適優印注項休写正上中下左右医宗学監企資協夜"),
   (0x32D0, "アイウエオカキクケコサシスセソタチツテトナニヌネノハヒフヘホマミムメモヤユヨラリルレロワヰヱヲ"), (0xA69C, "ъь"), (0xA770, "ꝯ"),
   (0xA7F1, "scfq"), (0xA7F8, "ħœ"), (0xAB5C, "ꜧꬷɫꭒ"), (0xAB69, "ʍ"),
   (0xAB70, "ᎠᎡᎢᎣᎤᎥᎦᎧᎨᎩᎪᎫᎬᎭᎮᎯᎰᎱᎲᎳᎴᎵᎶᎷᎸᎹᎺᎻᎼᎽᎾᎿᏀᏁᏂᏃᏄᏅᏆᏇᏈᏉᏊᏋᏌᏍᏎᏏᏐᏑᏒᏓᏔᏕᏖᏗᏘᏙᏚᏛᏜᏝᏞᏟᏠᏡᏢᏣᏤᏥᏦᏧᏨᏩᏪᏫᏬᏭ"),
   (0xABBE, "ᏮᏯ"), (0xFB20, "\u05e2\u05d0\u05d3\u05d4\u05db\u05dc\u05dd\u05e8\u05ea+"),
   (0xFB50, "\u0671\u0671\u067b\u067b\u067b\u067b\u067e\u067e\u067e\u067e\u0680\u0680\u0680"),
   (0xFB5D, "\u0680\u067a\u067a\u067a\u067a\u067f\u067f\u067f\u067f\u0679\u0679\u0679\u0679"),
   (0xFB6A, "\u06a4\u06a4\u06a4\u06a4\u06a6\u06a6\u06a6\u06a6\u0684\u0684\u0684\u0684\u0683"),
   (0xFB77, "\u0683\u0683\u0683\u0686\u0686\u0686\u0686\u0687\u0687\u0687\u0687\u068d\u068d"),
   (0xFB84, "\u068c\u068c\u068e\u068e\u0688\u0688\u0698\u0698\u0691\u0691\u06a9\u06a9\u06a9"),
   (0xFB91, "\u06a9\u06af\u06af\u06af\u06af\u06b3\u06b3\u06b3\u06b3\u06b1\u06b1\u06b1\u06b1"),
   (0xFB9E, "\u06ba\u06ba\u06bb\u06bb\u06bb\u06bb\u06c0\u06c0\u06c1\u06c1\u06c1\u06c1\u06be"),
   (0xFBAB, "\u06be\u06be\u06be\u06d2\u06d2\u06d3\u06d3"),
   (0xFBD3, "\u06ad\u06ad\u06ad\u06ad\u06c7\u06c7\u06c6\u06c6\u06c8\u06c8"),
   (0xFBDE, "\u06cb\u06cb\u06c5\u06c5\u06c9\u06c9\u06d0\u06d0\u06d0\u06d0\u0649\u0649"),
   (0xFBFC, "\u06cc\u06cc\u06cc\u06cc"), (0xFE10, ",、"), (0xFE13, ":;!?〖〗"),
   (0xFE31, "—–__()\x7b\x7d〔〕【】《》〈〉「」『』"), (0xFE47, "[]"), (0xFE4D, "___,、"),
   (0xFE54, ";:?!—()\x7b\x7d〔〕#&*+-<>="), (0xFE68, "\\$%@"),
   (0xFE80, "\u0621\u0622\u0622\u0623\u0623\u0624\u0624\u0625\u0625\u0626\u0626\u0626\u0626"),
   (0xFE8D, "\u0627\u0627\u0628\u0628\u0628\u0628\u0629\u0629\u062a\u062a\u062a\u062a\u062b"),
   (0xFE9A, "\u062b\u062b\u062b\u062c\u062c\u062c\u062c\u062d\u062d\u062d\u062d\u062e\u062e"),
   (0xFEA7, "\u062e\u062e\u062f\u062f\u0630\u0630\u0631\u0631\u0632\u0632\u0633\u0633\u0633"),
   (0xFEB4, "\u0633\u0634\u0634\u0634\u0634\u0635\u0635\u0635\u0635\u0636\u0636\u0636\u0636"),
   (0xFEC1, "\u0637\u0637\u0637\u0637\u0638\u0638\u0638\u0638\u0639\u0639\u0639\u0639\u063a"),
   (0xFECE, "\u063a\u063a\u063a\u0641\u0641\u0641\u0641\u0642\u0642\u0642\u0642\u0643\u0643"),
   (0xFEDB, "\u0643\u0643\u0644\u0644\u0644\u0644\u0645\u0645\u0645\u0645\u0646\u0646\u0646"),
   (0xFEE8, "\u0646\u0647\u0647\u0647\u0647\u0648\u0648\u0649\u0649\u064a\u064a\u064a\u064a"),
   (0xFF01, "!\"#$%&'()*+,-./0123456789:;<=>?@abcdefghijklmnopqrstuvwxyz[\\]^_`abcdefghijkl"),
   (0xFF4D, "mnopqrstuvwxyz\x7b|\x7d~⦅⦆.「」、・ヲァィゥェォャュョッーアイウエオカキクケコサシスセソタチツテトナニヌネノハヒフヘホマミムメモヤ"),
   (0xFF95, "ユヨラリルレロワン\u3099\u309a"), (0xFFA1, "ᄀᄁᆪᄂᆬᆭᄃᄄᄅᆰᆱᆲᆳᆴᆵᄚᄆᄇᄈᄡᄉᄊᄋᄌᄍᄎᄏᄐᄑᄒ"),
   (0xFFC2, "ᅡᅢᅣᅤᅥᅦ"), (0xFFCA, "ᅧᅨᅩᅪᅫᅬ"), (0xFFD2, "ᅭᅮᅯᅰᅱᅲ"), (0xFFDA, "ᅳᅴᅵ"), (0xFFE0, "¢£¬"),
   (0xFFE4, "¦¥₩"), (0xFFE8, "│←↑→↓■○"), (0x10781, "ːˑæʙɓ"),
   (0x10787, "ʣꭦʥʤɖɗᶑɘɞʩɤɢɠʛħʜɧʄʪʫɬ𝼄ꞎɮ𝼅ʎ𝼆øɶɷqɺ𝼈ɽɾʀʨʦꭧʧʈⱱ"), (0x107B2, "ʏʡʢʘǀǁǂ𝼊𝼞"),
   (0x1CCD6, "abcdefghijklmnopqrstuvwxyz0123456789"),
   (0x1D400, "abcdefghijklmnopqrstuvwxyzabcdefghijklmnopqrstuvwxyzabcdefghijklmnopqrstuvwxyz"),
   (0x1D44E, "abcdefg"),
   (0x1D456, "ijklmnopqrstuvwxyzabcdefghijklmnopqrstuvwxyzabcdefghijklmnopqrstuvwxyza"),
   (0x1D49E, "cd"), (0x1D4A2, "g"), (0x1D4A5, "jk"), (0x1D4A9, "nopq"), (0x1D4AE, "stuvwxyzabcd"),
   (0x1D4BB, "f"), (0x1D4BD, "hijklmn"),
   (0x1D4C5, "pqrstuvwxyzabcdefghijklmnopqrstuvwxyzabcdefghijklmnopqrstuvwxyzab"),
   (0x1D507, "defg"), (0x1D50D, "jklmnopq"), (0x1D516, "stuvwxy"),
   (0x1D51E, "abcdefghijklmnopqrstuvwxyzab"), (0x1D53B, "defg"), (0x1D540, "ijklm"), (0x1D546, "o"),
   (0x1D54A, "stuvwxy"),
   (0x1D552, "abcdefghijklmnopqrstuvwxyzabcdefghijklmnopqrstuvwxyzabcdefghijklmnopqrstuvwxyz"),
   (0x1D5A0, "abcdefghijklmnopqrstuvwxyzabcdefghijklmnopqrstuvwxyzabcdefghijklmnopqrstuvwxyz"),
   (0x1D5EE, "abcdefghijklmnopqrstuvwxyzabcdefghijklmnopqrstuvwxyzabcdefghijklmnopqrstuvwxyz"),
   (0x1D63C, "abcdefghijklmnopqrstuvwxyzabcdefghijklmnopqrstuvwxyzabcdefghijklmnopqrstuvwxyz"),
   (0x1D68A, "abcdefghijklmnopqrstuvwxyzıȷ"),
   (0x1D6A8, "αβγδεζηθικλμνξοπρθστυφχψω∇αβγδεζηθικλμνξοπρσστυφχψω∂εθκφρπαβγδεζηθικλμνξοπρθστ"),
   (0x1D6F6, "υφχψω∇αβγδεζηθικλμνξοπρσστυφχψω∂εθκφρπαβγδεζηθικλμνξοπρθστυφχψω∇αβγδεζηθικλμνξ"),
   (0x1D744, "οπρσστυφχψω∂εθκφρπαβγδεζηθικλμνξοπρθστυφχψω∇αβγδεζηθικλμνξοπρσστυφχψω∂εθκφρπαβ"),
   (0x1D792, "γδεζηθικλμνξοπρθστυφχψω∇αβγδεζηθικλμνξοπρσστυφχψω∂εθκφρπϝϝ"),
   (0x1D7CE, "01234567890123456789012345678901234567890123456789"),
   (0x1E030, "абвгдежзиклмопрстуфхцчшыэюꚉәіјөүӏабвгдежзиклопсуфхцчшъыґіѕџҫꙑұ"),
   (0x1EE00, "\u0627\u0628\u062c\u062f"),
   (0x1EE05, "\u0648\u0632\u062d\u0637\u064a\u0643\u0644\u0645\u0646\u0633\u0639\u0641\u0635"),
   (0x1EE12, "\u0642\u0631\u0634\u062a\u062b\u062e\u0630\u0636\u0638\u063a\u066e\u06ba\u06a1"),
   (0x1EE1F, "\u066f"), (0x1EE21, "\u0628\u062c"), (0x1EE24, "\u0647"), (0x1EE27, "\u062d"),
   (0x1EE29, "\u064a\u0643\u0644\u0645\u0646\u0633\u0639\u0641\u0635\u0642"),
   (0x1EE34, "\u0634\u062a\u062b\u062e"), (0x1EE39, "\u0636"), (0x1EE3B, "\u063a"),
   (0x1EE42, "\u062c"), (0x1EE47, "\u062d"), (0x1EE49, "\u064a"), (0x1EE4B, "\u0644"),
   (0x1EE4D, "\u0646\u0633\u0639"), (0x1EE51, "\u0635\u0642"), (0x1EE54, "\u0634"),
   (0x1EE57, "\u062e"), (0x1EE59, "\u0636"), (0x1EE5B, "\u063a"), (0x1EE5D, "\u06ba"),
   (0x1EE5F, "\u066f"), (0x1EE61, "\u0628\u062c"), (0x1EE64, "\u0647"),
   (0x1EE67, "\u062d\u0637\u064a\u0643"), (0x1EE6C, "\u0645\u0646\u0633\u0639\u0641\u0635\u0642"),
   (0x1EE74, "\u0634\u062a\u062b\u062e"), (0x1EE79, "\u0636\u0638\u063a\u066e"),
   (0x1EE7E, "\u06a1"), (0x1EE80, "\u0627\u0628\u062c\u062f\u0647\u0648\u0632\u062d\u0637\u064a"),
   (0x1EE8B, "\u0644\u0645\u0646\u0633\u0639\u0641\u0635\u0642\u0631\u0634\u062a\u062b\u062e"),
   (0x1EE98, "\u0630\u0636\u0638\u063a"), (0x1EEA1, "\u0628\u062c\u062f"),
   (0x1EEA5, "\u0648\u0632\u062d\u0637\u064a"),
   (0x1EEAB, "\u0644\u0645\u0646\u0633\u0639\u0641\u0635\u0642\u0631\u0634\u062a\u062b\u062e"),
   (0x1EEB8, "\u0630\u0636\u0638\u063a"), (0x1F12B, "cr"), (0x1F130, "abcdefghijklmnopqrstuvwxyz"),
   (0x1F202, "サ"), (0x1F210, "手字双デ二多解天交映無料前後再新初終生販声吹演投捕一三遊左中右指走打禁空合満有月申割営配"), (0x1F250, "得可"),
   (0x1FBF0, "0123456789")]

/-- Runs of characters that stand for several characters each. -/
def longImages : List (Nat × List String) :=
  [(0xA8, [" \u0308"]), (0xAF, [" \u0304"]), (0xB4, [" \u0301"]), (0xB8, [" \u0327"]),
   (0xBC, ["1⁄4", "1⁄2", "3⁄4"]), (0x132, ["ij", "ij"]), (0x13F, ["l·", "l·"]), (0x149, ["ʼn"]),
   (0x1C4, ["dž", "dž", "dž", "lj", "lj", "lj", "nj", "nj", "nj"]), (0x1F1, ["dz", "dz", "dz"]),
   (0x2D8, [" \u0306", " \u0307", " \u030a", " \u0328", " \u0303", " \u030b"]), (0x37A, [" ι"]),
   (0x384, [" \u0301", " \u0308\u0301"]), (0x587, ["եւ"]),
   (0x675, ["\u0627\u0674", "\u0648\u0674", "\u06c7\u0674", "\u064a\u0674"]), (0xE33, ["\u0e4dา"]),
   (0xEB3, ["\u0ecdາ"]), (0xEDC, ["ຫນ", "ຫມ"]), (0xF77, ["\u0fb2\u0f71\u0f80"]),
   (0xF79, ["\u0fb3\u0f71\u0f80"]), (0x1E9A, ["aʾ"]),
   (0x1F80, ["ἀι", "ἁι", "ἂι", "ἃι", "ἄι", "ἅι", "ἆι", "ἇι", "ἀι", "ἁι", "ἂι", "ἃι"]),
   (0x1F8C, ["ἄι", "ἅι", "ἆι", "ἇι", "ἠι", "ἡι", "ἢι", "ἣι", "ἤι", "ἥι", "ἦι", "ἧι"]),
   (0x1F98, ["ἠι", "ἡι", "ἢι", "ἣι", "ἤι", "ἥι", "ἦι", "ἧι", "ὠι", "ὡι", "ὢι", "ὣι"]),
   (0x1FA4, ["ὤι", "ὥι", "ὦι", "ὧι", "ὠι", "ὡι", "ὢι", "ὣι", "ὤι", "ὥι", "ὦι", "ὧι"]),
   (0x1FB2, ["ὰι", "αι", "άι"]), (0x1FB7, ["ᾶι"]), (0x1FBC, ["αι", " \u0313"]),
   (0x1FBF, [" \u0313", " \u0342", " \u0308\u0342", "ὴι", "ηι", "ήι"]), (0x1FC7, ["ῆι"]),
   (0x1FCC, ["ηι", " \u0313\u0300", " \u0313\u0301", " \u0313\u0342"]),
   (0x1FDD, [" \u0314\u0300", " \u0314\u0301", " \u0314\u0342"]),
   (0x1FED, [" \u0308\u0300", " \u0308\u0301"]), (0x1FF2, ["ὼι", "ωι", "ώι"]), (0x1FF7, ["ῶι"]),
   (0x1FFC, ["ωι", " \u0301", " \u0314"]), (0x2017, [" \u0333"]), (0x2033, ["′′", "′′′"]),
   (0x2036, ["‵‵", "‵‵‵"]), (0x203C, ["!!"]), (0x203E, [" \u0305"]), (0x2047, ["??", "?!", "!?"]),
   (0x2057, ["′′′′"]), (0x20A8, ["rs"]), (0x2100, ["a/c", "a/s"]), (0x2103, ["°c"]),
   (0x2105, ["c/o", "c/u"]), (0x2109, ["°f"]), (0x2116, ["no"]), (0x2120, ["sm", "tel", "tm"]),
   (0x213B, ["fax"]),
   (0x2150, ["1⁄7", "1⁄9", "1⁄10", "1⁄3", "2⁄3", "1⁄5", "2⁄5", "3⁄5", "4⁄5", "1⁄6"]),
   (0x215A, ["5⁄6", "1⁄8", "3⁄8", "5⁄8", "7⁄8", "1⁄"]), (0x2161, ["ii", "iii", "iv"]),
   (0x2165, ["vi", "vii", "viii", "ix"]), (0x216A, ["xi", "xii"]), (0x2171, ["ii", "iii", "iv"]),
   (0x2175, ["vi", "vii", "viii", "ix"]), (0x217A, ["xi", "xii"]), (0x2189, ["0⁄3"]),
   (0x222C, ["∫∫", "∫∫∫"]), (0x222F, ["∮∮", "∮∮∮"]),
   (0x2469, ["10", "11", "12", "13", "14", "15", "16", "17", "18", "19", "20", "(1)"]),
   (0x2475, ["(2)", "(3)", "(4)", "(5)", "(6)", "(7)", "(8)", "(9)", "(10)", "(11)"]),
   (0x247F, ["(12)", "(13)", "(14)", "(15)", "(16)", "(17)", "(18)", "(19)", "(20)"]),
   (0x249C, ["(a)", "(b)", "(c)", "(d)", "(e)", "(f)", "(g)", "(h)", "(i)", "(j)", "(k)"]),
   (0x24A7, ["(l)", "(m)", "(n)", "(o)", "(p)", "(q)", "(r)", "(s)", "(t)", "(u)", "(v)"]),
   (0x24B2, ["(w)", "(x)", "(y)", "(z)"]), (0x2A0C, ["∫∫∫∫"]), (0x2A74, ["::=", "==", "==="]),
   (0x309B, [" \u3099", " \u309a"]), (0x309F, ["より"]), (0x30FF, ["コト"]),
   (0x3200, ["(ᄀ)", "(ᄂ)", "(ᄃ)", "(ᄅ)", "(ᄆ)", "(ᄇ)", "(ᄉ)", "(ᄋ)", "(ᄌ)", "(ᄎ)", "(ᄏ)"]),
   (0x320B, ["(ᄐ)", "(ᄑ)", "(ᄒ)", "(가)", "(나)", "(다)", "(라)", "(마)", "(바)", "(사)", "(아)"]),
   (0x3216, ["(자)", "(차)", "(카)", "(타)", "(파)", "(하)", "(주)", "(오전)", "(오후)"]),
   (0x3220, ["(一)", "(二)", "(三)", "(四)", "(五)", "(六)", "(七)", "(八)", "(九)", "(十)", "(月)"]),
   (0x322B, ["(火)", "(水)", "(木)", "(金)", "(土)", "(日)", "(株)", "(有)", "(社)", "(名)", "(特)"]),
   (0x3236, ["(財)", "(祝)", "(労)", "(代)", "(呼)", "(学)", "(監)", "(企)", "(資)", "(協)", "(祭)"]),
   (0x3241, ["(休)", "(自)", "(至)"]),
   (0x3250, ["pte", "21", "22", "23", "24", "25", "26", "27", "28", "29", "30", "31"]),
   (0x325C, ["32", "33", "34", "35"]), (0x327C, ["참고", "주의"]),
   (0x32B1, ["36", "37", "38", "39", "40", "41", "42", "43", "44", "45", "46", "47"]),
   (0x32BD, ["48", "49", "50", "1月", "2月", "3月", "4月", "5月", "6月", "7月", "8月", "9月"]),
   (0x32C9, ["10月", "11月", "12月", "hg", "erg", "ev", "ltd"]),
   (0x32FF, ["令和", "アパート", "アルファ", "アンペア", "アール", "イニング", "インチ", "ウォン", "エスクード", "エーカー"]),
   (0x3309, ["オンス", "オーム", "カイリ", "カラット", "カロリー", "ガロン", "ガンマ", "ギガ", "ギニー", "キュリー"]),
   (0x3313, ["ギルダー", "キロ", "キログラム", "キロメートル", "キロワット", "グラム", "グラムトン", "クルゼイロ", "クローネ"]),
   (0x331C, ["ケース", "コルナ", "コーポ", "サイクル", "サンチーム", "シリング", "センチ", "セント", "ダース", "デシ"]),
   (0x3326, ["ドル", "トン", "ナノ", "ノット", "ハイツ", "パーセント", "パーツ", "バーレル", "ピアストル", "ピクル"]),
   (0x3330, ["ピコ", "ビル", "ファラッド", "フィート", "ブッシェル", "フラン", "ヘクタール", "ペソ", "ペニヒ", "ヘルツ"]),
   (0x333A, ["ペンス", "ページ", "ベータ", "ポイント", "ボルト", "ホン", "ポンド", "ホール", "ホーン", "マイクロ"]),
   (0x3344, ["マイル", "マッハ", "マルク", "マンション", "ミクロン", "ミリ", "ミリバール", "メガ", "メガトン", "メートル"]),
   (0x334E, ["ヤード", "ヤール", "ユアン", "リットル", "リラ", "ルピー", "ルーブル", "レム", "レントゲン", "ワット"]),
   (0x3358, ["0点", "1点", "2点", "3点", "4点", "5点", "6点", "7点", "8点", "9点", "10点", "11点"]),
   (0x3364, ["12点", "13点", "14点", "15点", "16点", "17点", "18点", "19点", "20点", "21点", "22点"]),
   (0x336F, ["23点", "24点", "hpa", "da", "au", "bar", "ov", "pc", "dm", "dm2", "dm3"]),
   (0x337A, ["iu", "平成", "昭和", "大正", "明治", "株式会社", "pa", "na", "μa", "ma", "ka", "kb"]),
   (0x3386, ["mb", "gb", "cal", "kcal", "pf", "nf", "μf", "μg", "mg", "kg", "hz", "khz"]),
   (0x3392, ["mhz", "ghz", "thz", "μl", "ml", "dl", "kl", "fm", "nm", "μm", "mm", "cm"]),
   (0x339E, ["km", "mm2", "cm2", "m2", "km2", "mm3", "cm3", "m3", "km3", "m∕s", "m∕s2"]),
   (0x33A9, ["pa", "kpa", "mpa", "gpa", "rad", "rad∕s", "rad∕s2", "ps", "ns", "μs", "ms"]),
   (0x33B4, ["pv", "nv", "μv", "mv", "kv", "mv", "pw", "nw", "μw", "mw", "kw", "mw"]),
   (0x33C0, ["kω", "mω"]), (0x33C3, ["bq", "cc", "cd", "c∕kg"]),
   (0x33C8, ["db", "gy", "ha", "hp", "in", "kk", "km", "kt", "lm", "ln", "log", "lx"]),
   (0x33D4, ["mb", "mil", "mol", "ph"]),
   (0x33D9, ["ppm", "pr", "sr", "sv", "wb", "v∕m", "a∕m", "1日", "2日", "3日", "4日", "5日"]),
   (0x33E5, ["6日", "7日", "8日", "9日", "10日", "11日", "12日", "13日", "14日", "15日", "16日"]),
   (0x33F0, ["17日", "18日", "19日", "20日", "21日", "22日", "23日", "24日", "25日", "26日", "27日"]),
   (0x33FB, ["28日", "29日", "30日", "31日", "gal"]),
   (0xFB00, ["ff", "fi", "fl", "ffi", "ffl", "st", "st"]), (0xFB13, ["մն", "մե", "մի", "վն", "մխ"]),
   (0xFB4F, ["\u05d0\u05dc"]), (0xFBDD, ["\u06c7\u0674"]),
   (0xFBEA, ["\u0626\u0627", "\u0626\u0627", "\u0626\u06d5", "\u0626\u06d5"]),
   (0xFBEE, ["\u0626\u0648", "\u0626\u0648", "\u0626\u06c7", "\u0626\u06c7"]),
   (0xFBF2, ["\u0626\u06c6", "\u0626\u06c6", "\u0626\u06c8", "\u0626\u06c8"]),
   (0xFBF6, ["\u0626\u06d0", "\u0626\u06d0", "\u0626\u06d0", "\u0626\u0649"]),
   (0xFBFA, ["\u0626\u0649", "\u0626\u0649"]),
   (0xFC00, ["\u0626\u062c", "\u0626\u062d", "\u0626\u0645", "\u0626\u0649"]),
   (0xFC04, ["\u0626\u064a", "\u0628\u062c", "\u0628\u062d", "\u0628\u062e"]),
   (0xFC08, ["\u0628\u0645", "\u0628\u0649", "\u0628\u064a", "\u062a\u062c"]),
   (0xFC0C, ["\u062a\u062d", "\u062a\u062e", "\u062a\u0645", "\u062a\u0649"]),
   (0xFC10, ["\u062a\u064a", "\u062b\u062c", "\u062b\u0645", "\u062b\u0649"]),
   (0xFC14, ["\u062b\u064a", "\u062c\u062d", "\u062c\u0645", "\u062d\u062c"]),
   (0xFC18, ["\u062d\u0645", "\u062e\u062c", "\u062e\u062d", "\u062e\u0645"]),
   (0xFC1C, ["\u0633\u062c", "\u0633\u062d", "\u0633\u062e", "\u0633\u0645"]),
   (0xFC20, ["\u0635\u062d", "\u0635\u0645", "\u0636\u062c", "\u0636\u062d"]),
   (0xFC24, ["\u0636\u062e", "\u0636\u0645", "\u0637\u062d", "\u0637\u0645"]),
   (0xFC28, ["\u0638\u0645", "\u0639\u062c", "\u0639\u0645", "\u063a\u062c"]),
   (0xFC2C, ["\u063a\u0645", "\u0641\u062c", "\u0641\u062d", "\u0641\u062e"]),
   (0xFC30, ["\u0641\u0645", "\u0641\u0649", "\u0641\u064a", "\u0642\u062d"]),
   (0xFC34, ["\u0642\u0645", "\u0642\u0649", "\u0642\u064a", "\u0643\u0627"]),
   (0xFC38, ["\u0643\u062c", "\u0643\u062d", "\u0643\u062e", "\u0643\u0644"]),
   (0xFC3C, ["\u0643\u0645", "\u0643\u0649", "\u0643\u064a", "\u0644\u062c"]),
   (0xFC40, ["\u0644\u062d", "\u0644\u062e", "\u0644\u0645", "\u0644\u0649"]),
   (0xFC44, ["\u0644\u064a", "\u0645\u062c", "\u0645\u062d", "\u0645\u062e"]),
   (0xFC48, ["\u0645\u0645", "\u0645\u0649", "\u0645\u064a", "\u0646\u062c"]),
   (0xFC4C, ["\u0646\u062d", "\u0646\u062e", "\u0646\u0645", "\u0646\u0649"]),
   (0xFC50, ["\u0646\u064a", "\u0647\u062c", "\u0647\u0645", "\u0647\u0649"]),
   (0xFC54, ["\u0647\u064a", "\u064a\u062c", "\u064a\u062d", "\u064a\u062e"]),
   (0xFC58, ["\u064a\u0645", "\u064a\u0649", "\u064a\u064a", "\u0630\u0670"]),
   (0xFC5C, ["\u0631\u0670", "\u0649\u0670", " \u064c\u0651", " \u064d\u0651"]),
   (0xFC60, [" \u064e\u0651", " \u064f\u0651", " \u0650\u0651", " \u0651\u0670"]),
   (0xFC64, ["\u0626\u0631", "\u0626\u0632", "\u0626\u0645", "\u0626\u0646"]),
   (0xFC68, ["\u0626\u0649", "\u0626\u064a", "\u0628\u0631", "\u0628\u0632"]),
   (0xFC6C, ["\u0628\u0645", "\u0628\u0646", "\u0628\u0649", "\u0628\u064a"]),
   (0xFC70, ["\u062a\u0631", "\u062a\u0632", "\u062a\u0645", "\u062a\u0646"]),
   (0xFC74, ["\u062a\u0649", "\u062a\u064a", "\u062b\u0631", "\u062b\u0632"]),
   (0xFC78, ["\u062b\u0645", "\u062b\u0646", "\u062b\u0649", "\u062b\u064a"]),
   (0xFC7C, ["\u0641\u0649", "\u0641\u064a", "\u0642\u0649", "\u0642\u064a"]),
   (0xFC80, ["\u0643\u0627", "\u0643\u0644", "\u0643\u0645", "\u0643\u0649"]),
   (0xFC84, ["\u0643\u064a", "\u0644\u0645", "\u0644\u0649", "\u0644\u064a"]),
   (0xFC88, ["\u0645\u0627", "\u0645\u0645", "\u0646\u0631", "\u0646\u0632"]),
   (0xFC8C, ["\u0646\u0645", "\u0646\u0646", "\u0646\u0649", "\u0646\u064a"]),
   (0xFC90, ["\u0649\u0670", "\u064a\u0631", "\u064a\u0632", "\u064a\u0645"]),
   (0xFC94, ["\u064a\u0646", "\u064a\u0649", "\u064a\u064a", "\u0626\u062c"]),
   (0xFC98, ["\u0626\u062d", "\u0626\u062e", "\u0626\u0645", "\u0626\u0647"]),
   (0xFC9C, ["\u0628\u062c", "\u0628\u062d", "\u0628\u062e", "\u0628\u0645"]),
   (0xFCA0, ["\u0628\u0647", "\u062a\u062c", "\u062a\u062d", "\u062a\u062e"]),
   (0xFCA4, ["\u062a\u0645", "\u062a\u0647", "\u062b\u0645", "\u062c\u062d"]),
   (0xFCA8, ["\u062c\u0645", "\u062d\u062c", "\u062d\u0645", "\u062e\u062c"]),
   (0xFCAC, ["\u062e\u0645", "\u0633\u062c", "\u0633\u062d", "\u0633\u062e"]),
   (0xFCB0, ["\u0633\u0645", "\u0635\u062d", "\u0635\u062e", "\u0635\u0645"]),
   (0xFCB4, ["\u0636\u062c", "\u0636\u062d", "\u0636\u062e", "\u0636\u0645"]),
   (0xFCB8, ["\u0637\u062d", "\u0638\u0645", "\u0639\u062c", "\u0639\u0645"]),
   (0xFCBC, ["\u063a\u062c", "\u063a\u0645", "\u0641\u062c", "\u0641\u062d"]),
   (0xFCC0, ["\u0641\u062e", "\u0641\u0645", "\u0642\u062d", "\u0642\u0645"]),
   (0xFCC4, ["\u0643\u062c", "\u0643\u062d", "\u0643\u062e", "\u0643\u0644"]),
   (0xFCC8, ["\u0643\u0645", "\u0644\u062c", "\u0644\u062d", "\u0644\u062e"]),
   (0xFCCC, ["\u0644\u0645", "\u0644\u0647", "\u0645\u062c", "\u0645\u062d"]),
   (0xFCD0, ["\u0645\u062e", "\u0645\u0645", "\u0646\u062c", "\u0646\u062d"]),
   (0xFCD4, ["\u0646\u062e", "\u0646\u0645", "\u0646\u0647", "\u0647\u062c"]),
   (0xFCD8, ["\u0647\u0645", "\u0647\u0670", "\u064a\u062c", "\u064a\u062d"]),
   (0xFCDC, ["\u064a\u062e", "\u064a\u0645", "\u064a\u0647", "\u0626\u0645"]),
   (0xFCE0, ["\u0626\u0647", "\u0628\u0645", "\u0628\u0647", "\u062a\u0645"]),
   (0xFCE4, ["\u062a\u0647", "\u062b\u0645", "\u062b\u0647", "\u0633\u0645"]),
   (0xFCE8, ["\u0633\u0647", "\u0634\u0645", "\u0634\u0647", "\u0643\u0644"]),
   (0xFCEC, ["\u0643\u0645", "\u0644\u0645", "\u0646\u0645", "\u0646\u0647"]),
   (0xFCF0, ["\u064a\u0645", "\u064a\u0647", "\u0640\u064e\u0651", "\u0640\u064f\u0651"]),
   (0xFCF4, ["\u0640\u0650\u0651", "\u0637\u0649", "\u0637\u064a", "\u0639\u0649"]),
   (0xFCF8, ["\u0639\u064a", "\u063a\u0649", "\u063a\u064a", "\u0633\u0649"]),
   (0xFCFC, ["\u0633\u064a", "\u0634\u0649", "\u0634\u064a", "\u062d\u0649"]),
   (0xFD00, ["\u062d\u064a", "\u062c\u0649", "\u062c\u064a", "\u062e\u0649"]),
   (0xFD04, ["\u062e\u064a", "\u0635\u0649", "\u0635\u064a", "\u0636\u0649"]),
   (0xFD08, ["\u0636\u064a", "\u0634\u062c", "\u0634\u062d", "\u0634\u062e"]),
   (0xFD0C, ["\u0634\u0645", "\u0634\u0631", "\u0633\u0631", "\u0635\u0631"]),
   (0xFD10, ["\u0636\u0631", "\u0637\u0649", "\u0637\u064a", "\u0639\u0649"]),
   (0xFD14, ["\u0639\u064a", "\u063a\u0649", "\u063a\u064a", "\u0633\u0649"]),
   (0xFD18, ["\u0633\u064a", "\u0634\u0649", "\u0634\u064a", "\u062d\u0649"]),
   (0xFD1C, ["\u062d\u064a", "\u062c\u0649", "\u062c\u064a", "\u062e\u0649"]),
   (0xFD20, ["\u062e\u064a", "\u0635\u0649", "\u0635\u064a", "\u0636\u0649"]),
   (0xFD24, ["\u0636\u064a", "\u0634\u062c", "\u0634\u062d", "\u0634\u062e"]),
   (0xFD28, ["\u0634\u0645", "\u0634\u0631", "\u0633\u0631", "\u0635\u0631"]),
   (0xFD2C, ["\u0636\u0631", "\u0634\u062c", "\u0634\u062d", "\u0634\u062e"]),
   (0xFD30, ["\u0634\u0645", "\u0633\u0647", "\u0634\u0647", "\u0637\u0645"]),
   (0xFD34, ["\u0633\u062c", "\u0633\u062d", "\u0633\u062e", "\u0634\u062c"]),
   (0xFD38, ["\u0634\u062d", "\u0634\u062e", "\u0637\u0645", "\u0638\u0645"]),
   (0xFD3C, ["\u0627\u064b", "\u0627\u064b"]),
   (0xFD50, ["\u062a\u062c\u0645", "\u062a\u062d\u062c", "\u062a\u062d\u062c"]),
   (0xFD53, ["\u062a\u062d\u0645", "\u062a\u062e\u0645", "\u062a\u0645\u062c"]),
   (0xFD56, ["\u062a\u0645\u062d", "\u062a\u0645\u062e", "\u062c\u0645\u062d"]),
   (0xFD59, ["\u062c\u0645\u062d", "\u062d\u0645\u064a", "\u062d\u0645\u0649"]),
   (0xFD5C, ["\u0633\u062d\u062c", "\u0633\u062c\u062d", "\u0633\u062c\u0649"]),
   (0xFD5F, ["\u0633\u0645\u062d", "\u0633\u0645\u062d", "\u0633\u0645\u062c"]),
   (0xFD62, ["\u0633\u0645\u0645", "\u0633\u0645\u0645", "\u0635\u062d\u062d"]),
   (0xFD65, ["\u0635\u062d\u062d", "\u0635\u0645\u0645", "\u0634\u062d\u0645"]),
   (0xFD68, ["\u0634\u062d\u0645", "\u0634\u062c\u064a", "\u0634\u0645\u062e"]),
   (0xFD6B, ["\u0634\u0645\u062e", "\u0634\u0645\u0645", "\u0634\u0645\u0645"]),
   (0xFD6E, ["\u0636\u062d\u0649", "\u0636\u062e\u0645", "\u0636\u062e\u0645"]),
   (0xFD71, ["\u0637\u0645\u062d", "\u0637\u0645\u062d", "\u0637\u0645\u0645"]),
   (0xFD74, ["\u0637\u0645\u064a", "\u0639\u062c\u0645", "\u0639\u0645\u0645"]),
   (0xFD77, ["\u0639\u0645\u0645", "\u0639\u0645\u0649", "\u063a\u0645\u0645"]),
   (0xFD7A, ["\u063a\u0645\u064a", "\u063a\u0645\u0649", "\u0641\u062e\u0645"]),
   (0xFD7D, ["\u0641\u062e\u0645", "\u0642\u0645\u062d", "\u0642\u0645\u0645"]),
   (0xFD80, ["\u0644\u062d\u0645", "\u0644\u062d\u064a", "\u0644\u062d\u0649"]),
   (0xFD83, ["\u0644\u062c\u062c", "\u0644\u062c\u062c", "\u0644\u062e\u0645"]),
   (0xFD86, ["\u0644\u062e\u0645", "\u0644\u0645\u062d", "\u0644\u0645\u062d"]),
   (0xFD89, ["\u0645\u062d\u062c", "\u0645\u062d\u0645", "\u0645\u062d\u064a"]),
   (0xFD8C, ["\u0645\u062c\u062d", "\u0645\u062c\u0645", "\u0645\u062e\u062c"]),
   (0xFD8F, ["\u0645\u062e\u0645"]),
   (0xFD92, ["\u0645\u062c\u062e", "\u0647\u0645\u062c", "\u0647\u0645\u0645"]),
   (0xFD95, ["\u0646\u062d\u0645", "\u0646\u062d\u0649", "\u0646\u062c\u0645"]),
   (0xFD98, ["\u0646\u062c\u0645", "\u0646\u062c\u0649", "\u0646\u0645\u064a"]),
   (0xFD9B, ["\u0646\u0645\u0649", "\u064a\u0645\u0645", "\u064a\u0645\u0645"]),
   (0xFD9E, ["\u0628\u062e\u064a", "\u062a\u062c\u064a", "\u062a\u062c\u0649"]),
   (0xFDA1, ["\u062a\u062e\u064a", "\u062a\u062e\u0649", "\u062a\u0645\u064a"]),
   (0xFDA4, ["\u062a\u0645\u0649", "\u062c\u0645\u064a", "\u062c\u062d\u0649"]),
   (0xFDA7, ["\u062c\u0645\u0649", "\u0633\u062e\u0649", "\u0635\u062d\u064a"]),
   (0xFDAA, ["\u0634\u062d\u064a", "\u0636\u062d\u064a", "\u0644\u062c\u064a"]),
   (0xFDAD, ["\u0644\u0645\u064a", "\u064a\u062d\u064a", "\u064a\u062c\u064a"]),
   (0xFDB0, ["\u064a\u0645\u064a", "\u0645\u0645\u064a", "\u0642\u0645\u064a"]),
   (0xFDB3, ["\u0646\u062d\u064a", "\u0642\u0645\u062d", "\u0644\u062d\u0645"]),
   (0xFDB6, ["\u0639\u0645\u064a", "\u0643\u0645\u064a", "\u0646\u062c\u062d"]),
   (0xFDB9, ["\u0645\u062e\u064a", "\u0644\u062c\u0645", "\u0643\u0645\u0645"]),
   (0xFDBC, ["\u0644\u062c\u0645", "\u0646\u062c\u062d", "\u062c\u062d\u064a"]),
   (0xFDBF, ["\u062d\u062c\u064a", "\u0645\u062c\u064a", "\u0641\u0645\u064a"]),
   (0xFDC2, ["\u0628\u062d\u064a", "\u0643\u0645\u0645", "\u0639\u062c\u0645"]),
   (0xFDC5, ["\u0635\u0645\u0645", "\u0633\u062e\u064a", "\u0646\u062c\u064a"]),
   (0xFDF0, ["\u0635\u0644\u06d2", "\u0642\u0644\u06d2", "\u0627\u0644\u0644\u0647"]),
   (0xFDF3, ["\u0627\u0643\u0628\u0631", "\u0645\u062d\u0645\u062f"]),
   (0xFDF5, ["\u0635\u0644\u0639\u0645", "\u0631\u0633\u0648\u0644"]),
   (0xFDF7, ["\u0639\u0644\u064a\u0647", "\u0648\u0633\u0644\u0645"]),
   (0xFDF9, ["\u0635\u0644\u0649", "صلى الله عليه وسلم"]),
   (0xFDFB, ["\u062c\u0644 \u062c\u0644\u0627\u0644\u0647", "\u0631\u06cc\u0627\u0644"]),
   (0xFE49, [" \u0305", " \u0305", " \u0305", " \u0305"]),
   (0xFE70, [" \u064b", "\u0640\u064b", " \u064c"]), (0xFE74, [" \u064d"]),
   (0xFE76, [" \u064e", "\u0640\u064e", " \u064f", "\u0640\u064f", " \u0650"]),
   (0xFE7B, ["\u0640\u0650", " \u0651", "\u0640\u0651", " \u0652", "\u0640\u0652"]),
   (0xFEF5, ["\u0644\u0622", "\u0644\u0622", "\u0644\u0623", "\u0644\u0623"]),
   (0xFEF9, ["\u0644\u0625", "\u0644\u0625", "\u0644\u0627", "\u0644\u0627"]),
   (0xFFE3, [" \u0304"]), (0x1F101, ["0,", "1,", "2,", "3,", "4,", "5,", "6,", "7,", "8,", "9,"]),
   (0x1F110, ["(a)", "(b)", "(c)", "(d)", "(e)", "(f)", "(g)", "(h)", "(i)", "(j)", "(k)"]),
   (0x1F11B, ["(l)", "(m)", "(n)", "(o)", "(p)", "(q)", "(r)", "(s)", "(t)", "(u)", "(v)"]),
   (0x1F126, ["(w)", "(x)", "(y)", "(z)", "〔s〕"]), (0x1F12D, ["cd", "wz"]),
   (0x1F14A, ["hv", "mv", "sd", "ss", "ppv", "wc"]), (0x1F16A, ["mc", "md", "mr"]),
   (0x1F190, ["dj"]), (0x1F200, ["ほか", "ココ"]),
   (0x1F240, ["〔本〕", "〔三〕", "〔二〕", "〔安〕", "〔点〕", "〔打〕", "〔盗〕", "〔勝〕", "〔敗〕"])]

end Curator.DomainCharacter
