/-
Letters of host names.

A character of a name that is written with one other character: a capital with its small
letter, a letter of a special shape with the plain one, such as full-width, mathematical
and circled letters, and the forms of the Arabic letters with the letter itself.  What
characters become is that of the mapping of domain names, version 17; characters that are
only other ways to write one are left to the normal form.
-/
import HttpGet.Text.Ranges

namespace HttpGet.Domain

/-- Runs of characters, each with its first and its last, that become the run that begins
with the third. -/
def shiftedRuns : List (Nat × Nat × Nat) := [
  (0x41, 0x5A, 0x61), (0xC0, 0xD6, 0xE0), (0xD8, 0xDE, 0xF8), (0x388, 0x38A, 0x3AD),
  (0x391, 0x3A1, 0x3B1), (0x3A3, 0x3AB, 0x3C3), (0x3FD, 0x3FF, 0x37B), (0x400, 0x40F, 0x450),
  (0x410, 0x42F, 0x430), (0x531, 0x556, 0x561), (0x10A0, 0x10C5, 0x2D00), (0x13F8, 0x13FD, 0x13F0),
  (0x1C90, 0x1CBA, 0x10D0), (0x1CBD, 0x1CBF, 0x10FD), (0x1D33, 0x1D3A, 0x67),
  (0x1D5D, 0x1D5F, 0x3B2), (0x1DA4, 0x1DA6, 0x268), (0x1DAE, 0x1DB1, 0x272),
  (0x1DBC, 0x1DBE, 0x290), (0x1F08, 0x1F0F, 0x1F00), (0x1F18, 0x1F1D, 0x1F10),
  (0x1F28, 0x1F2F, 0x1F20), (0x1F38, 0x1F3F, 0x1F30), (0x1F48, 0x1F4D, 0x1F40),
  (0x1F68, 0x1F6F, 0x1F60), (0x2074, 0x2079, 0x34), (0x2080, 0x2089, 0x30), (0x2096, 0x2099, 0x6B),
  (0x2119, 0x211B, 0x70), (0x2135, 0x2138, 0x5D0), (0x2460, 0x2468, 0x31), (0x24B6, 0x24CF, 0x61),
  (0x24D0, 0x24E9, 0x61), (0x2C00, 0x2C2F, 0x2C30), (0x3137, 0x3139, 0x1103),
  (0x313A, 0x313F, 0x11B0), (0x3141, 0x3143, 0x1106), (0x3145, 0x314E, 0x1109),
  (0x314F, 0x3163, 0x1161), (0x3178, 0x317C, 0x112B), (0x3184, 0x3186, 0x1157),
  (0x3263, 0x3265, 0x1105), (0x3269, 0x326D, 0x110E), (0x32E4, 0x32E9, 0x30CA),
  (0x32EE, 0x32F2, 0x30DE), (0x32F5, 0x32FA, 0x30E8), (0x32FB, 0x32FE, 0x30EF),
  (0xAB70, 0xABBF, 0x13A0), (0xFB24, 0xFB26, 0x5DB), (0xFE41, 0xFE44, 0x300C),
  (0xFF01, 0xFF20, 0x21), (0xFF21, 0xFF3A, 0x61), (0xFF3B, 0xFF5E, 0x5B), (0xFF85, 0xFF8A, 0x30CA),
  (0xFF8F, 0xFF93, 0x30DE), (0xFF96, 0xFF9B, 0x30E8), (0xFFA7, 0xFFA9, 0x1103),
  (0xFFAA, 0xFFAF, 0x11B0), (0xFFB1, 0xFFB3, 0x1106), (0xFFB5, 0xFFBE, 0x1109),
  (0xFFC2, 0xFFC7, 0x1161), (0xFFCA, 0xFFCF, 0x1167), (0xFFD2, 0xFFD7, 0x116D),
  (0xFFDA, 0xFFDC, 0x1173), (0xFFE9, 0xFFEC, 0x2190), (0x10400, 0x10427, 0x10428),
  (0x104B0, 0x104D3, 0x104D8), (0x10570, 0x1057A, 0x10597), (0x1057C, 0x1058A, 0x105A3),
  (0x1058C, 0x10592, 0x105B3), (0x107B6, 0x107B8, 0x1C0), (0x10C80, 0x10CB2, 0x10CC0),
  (0x10D50, 0x10D65, 0x10D70), (0x118A0, 0x118BF, 0x118C0), (0x16E40, 0x16E5F, 0x16E60),
  (0x16EA0, 0x16EB8, 0x16EBB), (0x1CCD6, 0x1CCEF, 0x61), (0x1CCF0, 0x1CCF9, 0x30),
  (0x1D400, 0x1D419, 0x61), (0x1D41A, 0x1D433, 0x61), (0x1D434, 0x1D44D, 0x61),
  (0x1D44E, 0x1D454, 0x61), (0x1D456, 0x1D467, 0x69), (0x1D468, 0x1D481, 0x61),
  (0x1D482, 0x1D49B, 0x61), (0x1D4A9, 0x1D4AC, 0x6E), (0x1D4AE, 0x1D4B5, 0x73),
  (0x1D4B6, 0x1D4B9, 0x61), (0x1D4BD, 0x1D4C3, 0x68), (0x1D4C5, 0x1D4CF, 0x70),
  (0x1D4D0, 0x1D4E9, 0x61), (0x1D4EA, 0x1D503, 0x61), (0x1D507, 0x1D50A, 0x64),
  (0x1D50D, 0x1D514, 0x6A), (0x1D516, 0x1D51C, 0x73), (0x1D51E, 0x1D537, 0x61),
  (0x1D53B, 0x1D53E, 0x64), (0x1D540, 0x1D544, 0x69), (0x1D54A, 0x1D550, 0x73),
  (0x1D552, 0x1D56B, 0x61), (0x1D56C, 0x1D585, 0x61), (0x1D586, 0x1D59F, 0x61),
  (0x1D5A0, 0x1D5B9, 0x61), (0x1D5BA, 0x1D5D3, 0x61), (0x1D5D4, 0x1D5ED, 0x61),
  (0x1D5EE, 0x1D607, 0x61), (0x1D608, 0x1D621, 0x61), (0x1D622, 0x1D63B, 0x61),
  (0x1D63C, 0x1D655, 0x61), (0x1D656, 0x1D66F, 0x61), (0x1D670, 0x1D689, 0x61),
  (0x1D68A, 0x1D6A3, 0x61), (0x1D6A8, 0x1D6B8, 0x3B1), (0x1D6BA, 0x1D6C0, 0x3C3),
  (0x1D6C2, 0x1D6D2, 0x3B1), (0x1D6D4, 0x1D6DA, 0x3C3), (0x1D6E2, 0x1D6F2, 0x3B1),
  (0x1D6F4, 0x1D6FA, 0x3C3), (0x1D6FC, 0x1D70C, 0x3B1), (0x1D70E, 0x1D714, 0x3C3),
  (0x1D71C, 0x1D72C, 0x3B1), (0x1D72E, 0x1D734, 0x3C3), (0x1D736, 0x1D746, 0x3B1),
  (0x1D748, 0x1D74E, 0x3C3), (0x1D756, 0x1D766, 0x3B1), (0x1D768, 0x1D76E, 0x3C3),
  (0x1D770, 0x1D780, 0x3B1), (0x1D782, 0x1D788, 0x3C3), (0x1D790, 0x1D7A0, 0x3B1),
  (0x1D7A2, 0x1D7A8, 0x3C3), (0x1D7AA, 0x1D7BA, 0x3B1), (0x1D7BC, 0x1D7C2, 0x3C3),
  (0x1D7CE, 0x1D7D7, 0x30), (0x1D7D8, 0x1D7E1, 0x30), (0x1D7E2, 0x1D7EB, 0x30),
  (0x1D7EC, 0x1D7F5, 0x30), (0x1D7F6, 0x1D7FF, 0x30), (0x1E030, 0x1E038, 0x430),
  (0x1E039, 0x1E03B, 0x43A), (0x1E03C, 0x1E046, 0x43E), (0x1E051, 0x1E059, 0x430),
  (0x1E05F, 0x1E064, 0x443), (0x1E900, 0x1E921, 0x1E922), (0x1EE0A, 0x1EE0D, 0x643),
  (0x1EE2A, 0x1EE2D, 0x643), (0x1EE8B, 0x1EE8D, 0x644), (0x1EEAB, 0x1EEAD, 0x644),
  (0x1F130, 0x1F149, 0x61), (0x1FBF0, 0x1FBF9, 0x30)]

/-- Runs of capitals, each before its small letter; the first of a run is a capital, the
last is a small letter. -/
def pairedRuns : List (Nat × Nat) := [
  (0x100, 0x12F), (0x134, 0x137), (0x139, 0x13E), (0x141, 0x148), (0x14A, 0x177), (0x179, 0x17E),
  (0x182, 0x185), (0x1A0, 0x1A5), (0x1B3, 0x1B6), (0x1CD, 0x1DC), (0x1DE, 0x1EF), (0x1F8, 0x21F),
  (0x222, 0x233), (0x246, 0x24F), (0x370, 0x373), (0x3D8, 0x3EF), (0x460, 0x481), (0x48A, 0x4BF),
  (0x4C1, 0x4CE), (0x4D0, 0x52F), (0x1E00, 0x1E95), (0x1EA0, 0x1EFF), (0x2C67, 0x2C6C),
  (0x2C80, 0x2CE3), (0x2CEB, 0x2CEE), (0xA640, 0xA66D), (0xA680, 0xA69B), (0xA722, 0xA72F),
  (0xA732, 0xA76F), (0xA779, 0xA77C), (0xA77E, 0xA787), (0xA790, 0xA793), (0xA796, 0xA7A9),
  (0xA7B4, 0xA7C3), (0xA7C7, 0xA7CA), (0xA7CC, 0xA7DB)]

/-- The characters below U+FB00 of no such run. -/
def singleLetters : List (Nat × String) := [
  (0xAA, "a"), (0xB2, "23"), (0xB5, "μ"), (0xB9, "1o"), (0x178, "ÿ"), (0x17F, "s"), (0x181, "ɓ"),
  (0x186, "ɔƈ"), (0x189, "ɖɗƌ"), (0x18E, "ǝə"), (0x190, "ɛƒ"), (0x193, "ɠɣ"), (0x196, "ɩɨƙ"),
  (0x19C, "ɯɲ"), (0x19F, "ɵ"), (0x1A6, "ʀƨ"), (0x1A9, "ʃ"), (0x1AC, "ƭ"), (0x1AE, "ʈư"),
  (0x1B1, "ʊʋ"), (0x1B7, "ʒƹ"), (0x1BC, "ƽ"), (0x1F4, "ǵ"), (0x1F6, "ƕƿ"), (0x220, "ƞ"),
  (0x23A, "ⱥȼ"), (0x23D, "ƚⱦ"), (0x241, "ɂ"), (0x243, "ƀʉʌ"), (0x2B0, "hɦjrɹɻʁwy"),
  (0x2E0, "ɣlsxʕ"), (0x345, "ι"), (0x376, "ͷ"), (0x37F, "ϳ"), (0x386, "ά"), (0x38C, "ό"),
  (0x38E, "ύώ"), (0x3CF, "ϗ"), (0x3D0, "βθυύϋφπ"), (0x3F0, "κρσ"), (0x3F4, "θε"), (0x3F7, "ϸ"),
  (0x3F9, "σϻ"), (0x4C0, "ӏ"), (0xF0C, "་"), (0x10C7, "ⴧ"), (0x10CD, "ⴭ"), (0x10FC, "ნ"),
  (0x1C80, "вдосттъѣꙋᲊ"), (0x1D2C, "aæb"), (0x1D30, "deǝ"), (0x1D3C, "oȣpr"),
  (0x1D40, "tuwaɐɑᴂbdeəɛɜg"), (0x1D4F, "k"), (0x1D50, "mŋoɔᴖᴗptuᴝɯvᴥ"), (0x1D60, "φχiruvβγρφχ"),
  (0x1D78, "н"), (0x1D9B, "ɒcɕðɜ"), (0x1DA0, "fɟɡɥ"), (0x1DA7, "ᵻʝɭᶅʟɱɰ"), (0x1DB2, "ɸʂʃƫʉʊᴜʋʌz"),
  (0x1DBF, "θ"), (0x1E9B, "ṡ"), (0x1E9E, "ß"), (0x1F59, "ὑ"), (0x1F5B, "ὓ"), (0x1F5D, "ὕ"),
  (0x1F5F, "ὗ"), (0x1FB8, "ᾰᾱὰά"), (0x1FC8, "ὲέὴή"), (0x1FD8, "ῐῑὶί"), (0x1FE8, "ῠῡὺύῥ"),
  (0x1FF8, "ὸόὼώ"), (0x2011, "‐"), (0x2070, "0i"), (0x207A, "+−=()n"), (0x208A, "+−=()"),
  (0x2090, "aeoxəh"), (0x209A, "pst"), (0x2102, "c"), (0x2107, "ɛ"), (0x210A, "ghhhhħ"),
  (0x2110, "iill"), (0x2115, "n"), (0x211C, "rr"), (0x2124, "z"), (0x2126, "ω"), (0x2128, "z"),
  (0x212A, "kåbc"), (0x212F, "e"), (0x2130, "efⅎmo"), (0x2139, "i"), (0x213C, "πγγπ"),
  (0x2140, "∑"), (0x2145, "ddeij"), (0x2160, "i"), (0x2164, "v"), (0x2169, "x"), (0x216C, "lcdm"),
  (0x2170, "i"), (0x2174, "v"), (0x2179, "x"), (0x217C, "lcdm"), (0x2183, "ↄ"), (0x24EA, "0"),
  (0x2C60, "ⱡ"), (0x2C62, "ɫᵽɽ"), (0x2C6D, "ɑɱɐ"), (0x2C70, "ɒ"), (0x2C72, "ⱳ"), (0x2C75, "ⱶ"),
  (0x2C7C, "jvȿɀ"), (0x2CF2, "ⳳ"), (0x2D6F, "ⵡ"), (0x2E9F, "母"), (0x2EF3, "龟"),
  (0x2F00, "一丨丶丿乙亅二亠人儿入八冂冖冫几"), (0x2F10, "凵刀力勹匕匚匸十卜卩厂厶又口囗土"),
  (0x2F20, "士夂夊夕大女子宀寸小尢尸屮山巛工"), (0x2F30, "己巾干幺广廴廾弋弓彐彡彳心戈戶手"),
  (0x2F40, "支攴文斗斤方无日曰月木欠止歹殳毋"), (0x2F50, "比毛氏气水火爪父爻爿片牙牛犬玄玉"),
  (0x2F60, "瓜瓦甘生用田疋疒癶白皮皿目矛矢石"), (0x2F70, "示禸禾穴立竹米糸缶网羊羽老而耒耳"),
  (0x2F80, "聿肉臣自至臼舌舛舟艮色艸虍虫血行"), (0x2F90, "衣襾見角言谷豆豕豸貝赤走足身車辛"),
  (0x2FA0, "辰辵邑酉釆里金長門阜隶隹雨靑非面"), (0x2FB0, "革韋韭音頁風飛食首香馬骨高髟鬥鬯"),
  (0x2FC0, "鬲鬼魚鳥鹵鹿麥麻黃黍黑黹黽鼎鼓鼠"), (0x2FD0, "鼻齊齒龍龜龠"), (0x3002, "."),
  (0x3036, "〒"), (0x3038, "十卄卅"), (0x3131, "\u1100\u1101\u11AA\u1102\u11AC\u11AD"),
  (0x3140, "\u111A"), (0x3144, "\u1121"),
  (0x3165, "\u1114\u1115\u11C7\u11C8\u11CC\u11CE\u11D3\u11D7\u11D9\u111C\u11DD"),
  (0x3170, "\u11DF\u111D\u111E\u1120\u1122\u1123\u1127\u1129"), (0x317D, "\u1132\u1136\u1140"),
  (0x3180, "\u1147\u114C\u11F1\u11F2"),
  (0x3187, "\u1184\u1185\u1188\u1191\u1192\u1194\u119E\u11A1"),
  (0x3192, "一二三四上中下甲乙丙丁天地人"), (0x3244, "問幼文箏"), (0x3260, "\u1100\u1102\u1103"),
  (0x3266, "\u1109\u110B\u110C"), (0x326E, "가나"), (0x3270, "다라마바사아자차카타파하"),
  (0x327E, "우"), (0x3280, "一二三四五六七八九十月火水木金土"),
  (0x3290, "日株有社名特財祝労秘男女適優印注"), (0x32A0, "項休写正上中下左右医宗学監企資協"),
  (0x32B0, "夜"), (0x32D0, "アイウエオカキクケコサシスセソタ"), (0x32E0, "チツテト"),
  (0x32EA, "ヒフヘホ"), (0x32F3, "ヤユ"), (0xA69C, "ъь"), (0xA770, "ꝯ"), (0xA77D, "ᵹ"),
  (0xA78B, "ꞌ"), (0xA78D, "ɥ"), (0xA7AA, "ɦɜɡɬɪ"), (0xA7B0, "ʞʇʝꭓ"), (0xA7C4, "ꞔʂᶎ"),
  (0xA7CB, "ɤ"), (0xA7DC, "ƛ"), (0xA7F1, "scfqꟶ"), (0xA7F8, "ħœ"), (0xAB5C, "ꜧꬷɫꭒ"),
  (0xAB69, "ʍ")]

/-- The presentation forms and wide forms of no such run. -/
def singleForms : List (Nat × String) := [
  (0xFB20, "\u05E2\u05D0\u05D3\u05D4"), (0xFB27, "\u05E8\u05EA+"),
  (0xFB50, "\u0671\u0671\u067B\u067B\u067B\u067B\u067E\u067E"),
  (0xFB58, "\u067E\u067E\u0680\u0680\u0680\u0680\u067A\u067A"),
  (0xFB60, "\u067A\u067A\u067F\u067F\u067F\u067F\u0679\u0679"),
  (0xFB68, "\u0679\u0679\u06A4\u06A4\u06A4\u06A4\u06A6\u06A6"),
  (0xFB70, "\u06A6\u06A6\u0684\u0684\u0684\u0684\u0683\u0683"),
  (0xFB78, "\u0683\u0683\u0686\u0686\u0686\u0686\u0687\u0687"),
  (0xFB80, "\u0687\u0687\u068D\u068D\u068C\u068C\u068E\u068E"),
  (0xFB88, "\u0688\u0688\u0698\u0698\u0691\u0691\u06A9\u06A9"),
  (0xFB90, "\u06A9\u06A9\u06AF\u06AF\u06AF\u06AF\u06B3\u06B3"),
  (0xFB98, "\u06B3\u06B3\u06B1\u06B1\u06B1\u06B1\u06BA\u06BA"),
  (0xFBA0, "\u06BB\u06BB\u06BB\u06BB\u06C0\u06C0\u06C1\u06C1"),
  (0xFBA8, "\u06C1\u06C1\u06BE\u06BE\u06BE\u06BE\u06D2\u06D2"), (0xFBB0, "\u06D3\u06D3"),
  (0xFBD3, "\u06AD\u06AD\u06AD\u06AD\u06C7\u06C7\u06C6\u06C6\u06C8\u06C8"),
  (0xFBDE, "\u06CB\u06CB"),
  (0xFBE0, "\u06C5\u06C5\u06C9\u06C9\u06D0\u06D0\u06D0\u06D0\u0649\u0649"),
  (0xFBFC, "\u06CC\u06CC\u06CC\u06CC"), (0xFE10, ",、"), (0xFE13, ":;!?〖〗"),
  (0xFE31, "—–__()\x7b\x7d〔〕【】《》〈"), (0xFE40, "〉"), (0xFE47, "[]"), (0xFE4D, "___"),
  (0xFE50, ",、"), (0xFE54, ";:?!—()\x7b\x7d〔〕#"), (0xFE60, "&*+-<>="), (0xFE68, "\\$%@"),
  (0xFE80, "\u0621\u0622\u0622\u0623\u0623\u0624\u0624\u0625"),
  (0xFE88, "\u0625\u0626\u0626\u0626\u0626\u0627\u0627\u0628"),
  (0xFE90, "\u0628\u0628\u0628\u0629\u0629\u062A\u062A\u062A"),
  (0xFE98, "\u062A\u062B\u062B\u062B\u062B\u062C\u062C\u062C"),
  (0xFEA0, "\u062C\u062D\u062D\u062D\u062D\u062E\u062E\u062E"),
  (0xFEA8, "\u062E\u062F\u062F\u0630\u0630\u0631\u0631\u0632"),
  (0xFEB0, "\u0632\u0633\u0633\u0633\u0633\u0634\u0634\u0634"),
  (0xFEB8, "\u0634\u0635\u0635\u0635\u0635\u0636\u0636\u0636"),
  (0xFEC0, "\u0636\u0637\u0637\u0637\u0637\u0638\u0638\u0638"),
  (0xFEC8, "\u0638\u0639\u0639\u0639\u0639\u063A\u063A\u063A"),
  (0xFED0, "\u063A\u0641\u0641\u0641\u0641\u0642\u0642\u0642"),
  (0xFED8, "\u0642\u0643\u0643\u0643\u0643\u0644\u0644\u0644"),
  (0xFEE0, "\u0644\u0645\u0645\u0645\u0645\u0646\u0646\u0646"),
  (0xFEE8, "\u0646\u0647\u0647\u0647\u0647\u0648\u0648\u0649"),
  (0xFEF0, "\u0649\u064A\u064A\u064A\u064A"), (0xFF5F, "⦅"),
  (0xFF60, "⦆.「」、・ヲァィゥェォャュョッ"), (0xFF70, "ーアイウエオカキクケコサシスセソ"),
  (0xFF80, "タチツテト"), (0xFF8B, "ヒフヘホ"), (0xFF94, "ヤユ"), (0xFF9C, "ワン\u3099\u309A"),
  (0xFFA1, "\u1100\u1101\u11AA\u1102\u11AC\u11AD"), (0xFFB0, "\u111A"), (0xFFB4, "\u1121"),
  (0xFFE0, "¢£¬"), (0xFFE4, "¦¥₩"), (0xFFE8, "│"), (0xFFED, "■○")]

/-- The characters from U+10000 on of no such run. -/
def singleLaterLetters : List (Nat × String) := [
  (0x10594, "𐖻𐖼"), (0x10781, "ːˑæʙɓ"), (0x10787, "ʣꭦʥʤɖɗᶑɘɞ"), (0x10790, "ʩɤɢɠʛħʜɧʄʪʫɬ𝼄ꞎɮ𝼅"),
  (0x107A0, "ʎ𝼆øɶɷqɺ𝼈ɽɾʀʨʦꭧʧʈ"), (0x107B0, "ⱱ"), (0x107B2, "ʏʡʢʘ"), (0x107B9, "𝼊𝼞"),
  (0x1D49C, "a"), (0x1D49E, "cd"), (0x1D4A2, "g"), (0x1D4A5, "jk"), (0x1D4BB, "f"), (0x1D504, "ab"),
  (0x1D538, "ab"), (0x1D546, "o"), (0x1D6A4, "ıȷ"), (0x1D6B9, "θ"), (0x1D6C1, "∇"), (0x1D6D3, "σ"),
  (0x1D6DB, "∂εθκφ"), (0x1D6E0, "ρπ"), (0x1D6F3, "θ"), (0x1D6FB, "∇"), (0x1D70D, "σ"),
  (0x1D715, "∂εθκφρπ"), (0x1D72D, "θ"), (0x1D735, "∇"), (0x1D747, "σ"), (0x1D74F, "∂"),
  (0x1D750, "εθκφρπ"), (0x1D767, "θ"), (0x1D76F, "∇"), (0x1D781, "σ"), (0x1D789, "∂εθκφρπ"),
  (0x1D7A1, "θ"), (0x1D7A9, "∇"), (0x1D7BB, "σ"), (0x1D7C3, "∂εθκφρπϝϝ"), (0x1E047, "ыэюꚉәіјөү"),
  (0x1E050, "ӏ"), (0x1E05A, "клопс"), (0x1E065, "ъыґіѕџҫꙑұ"),
  (0x1EE00, "\u0627\u0628\u062C\u062F"), (0x1EE05, "\u0648\u0632\u062D\u0637\u064A"),
  (0x1EE0E, "\u0633\u0639"), (0x1EE10, "\u0641\u0635\u0642\u0631\u0634\u062A\u062B\u062E"),
  (0x1EE18, "\u0630\u0636\u0638\u063A\u066E\u06BA\u06A1\u066F"), (0x1EE21, "\u0628\u062C"),
  (0x1EE24, "\u0647"), (0x1EE27, "\u062D"), (0x1EE29, "\u064A"), (0x1EE2E, "\u0633\u0639"),
  (0x1EE30, "\u0641\u0635\u0642"), (0x1EE34, "\u0634\u062A\u062B\u062E"), (0x1EE39, "\u0636"),
  (0x1EE3B, "\u063A"), (0x1EE42, "\u062C"), (0x1EE47, "\u062D"), (0x1EE49, "\u064A"),
  (0x1EE4B, "\u0644"), (0x1EE4D, "\u0646\u0633\u0639"), (0x1EE51, "\u0635\u0642"),
  (0x1EE54, "\u0634"), (0x1EE57, "\u062E"), (0x1EE59, "\u0636"), (0x1EE5B, "\u063A"),
  (0x1EE5D, "\u06BA"), (0x1EE5F, "\u066F"), (0x1EE61, "\u0628\u062C"), (0x1EE64, "\u0647"),
  (0x1EE67, "\u062D\u0637\u064A\u0643"), (0x1EE6C, "\u0645\u0646\u0633\u0639"),
  (0x1EE70, "\u0641\u0635\u0642"), (0x1EE74, "\u0634\u062A\u062B\u062E"),
  (0x1EE79, "\u0636\u0638\u063A\u066E"), (0x1EE7E, "\u06A1"),
  (0x1EE80, "\u0627\u0628\u062C\u062F\u0647\u0648\u0632\u062D\u0637\u064A"),
  (0x1EE8E, "\u0633\u0639"),
  (0x1EE90, "\u0641\u0635\u0642\u0631\u0634\u062A\u062B\u062E\u0630\u0636\u0638\u063A"),
  (0x1EEA1, "\u0628\u062C\u062F"), (0x1EEA5, "\u0648\u0632\u062D\u0637\u064A"),
  (0x1EEAE, "\u0633\u0639"),
  (0x1EEB0, "\u0641\u0635\u0642\u0631\u0634\u062A\u062B\u062E\u0630\u0636\u0638\u063A"),
  (0x1F12B, "cr"), (0x1F202, "サ"), (0x1F210, "手字双デ二多解天交映無料前後再新"),
  (0x1F220, "初終生販声吹演投捕一三遊左中右指"), (0x1F230, "走打禁空合満有月申割営配"),
  (0x1F250, "得可")]

/-- What the runs make of a code point. -/
def shifted? (n : Nat) : Option Nat :=
  (shiftedRuns.find? fun r => r.1 ≤ n && n ≤ r.2.1).map fun r => r.2.2 + (n - r.1)

/-- The small letter of a paired capital. -/
def paired? (n : Nat) : Option Nat :=
  (pairedRuns.find? fun r => r.1 ≤ n && n ≤ r.2).bind fun r =>
    if (n - r.1) % 2 = 0 then some (n + 1) else none

/-- The one character that a character becomes, if it does not stay. -/
def letter? (n : Nat) : Option Char :=
  let single :=
    if n < 0x80 then none
    else if n < 0xFB00 then charAt? singleLetters n
    else if n < 0x10000 then charAt? singleForms n
    else charAt? singleLaterLetters n
  (((shifted? n).or (paired? n)).map Char.ofNat).or single

example : letter? 0x41 = some 'a' ∧ letter? 0x61 = none ∧ letter? 0x100 = some 'ā' ∧
    letter? 0x101 = none ∧ letter? 0xFF21 = some 'a' ∧ letter? 0x1D7CE = some '0' := by
  decide +kernel

end HttpGet.Domain
