/-
Characters of host names that become several.

Ligatures, letters with a sign beside them, numbers in brackets, abbreviations in a square
and the ligatures of Arabic are written out in a name.  The rows begin with a code point and
give what it and the following ones become; they are those of the mapping of domain names,
version 17.
-/
import HttpGet.Text.Ranges

namespace HttpGet.Domain

/-- What characters below U+3000 become. -/
def sequences.letters : List (Nat × List String) := [
  (0xBC, ["1⁄4", "1⁄2", "3⁄4"]), (0x130, ["i\u0307"]), (0x132, ["ij", "ij"]), (0x13F, ["l·"]),
  (0x140, ["l·"]), (0x149, ["ʼn"]), (0x1C4, ["dž", "dž", "dž", "lj"]),
  (0x1C8, ["lj", "lj", "nj", "nj", "nj"]), (0x1F1, ["dz", "dz", "dz"]), (0x587, ["եւ"]),
  (0x675, ["\u0627\u0674", "\u0648\u0674", "\u06C7\u0674"]), (0x678, ["\u064A\u0674"]),
  (0xE33, ["\u0E4Dา"]), (0xEB3, ["\u0ECDາ"]), (0xEDC, ["ຫນ", "ຫມ"]),
  (0xF77, ["\u0FB2\u0F71\u0F80"]), (0xF79, ["\u0FB3\u0F71\u0F80"]), (0x1E9A, ["aʾ"]),
  (0x1F80, ["ἀι", "ἁι", "ἂι", "ἃι", "ἄι", "ἅι", "ἆι", "ἇι"]),
  (0x1F88, ["ἀι", "ἁι", "ἂι", "ἃι", "ἄι", "ἅι", "ἆι", "ἇι"]),
  (0x1F90, ["ἠι", "ἡι", "ἢι", "ἣι", "ἤι", "ἥι", "ἦι", "ἧι"]),
  (0x1F98, ["ἠι", "ἡι", "ἢι", "ἣι", "ἤι", "ἥι", "ἦι", "ἧι"]),
  (0x1FA0, ["ὠι", "ὡι", "ὢι", "ὣι", "ὤι", "ὥι", "ὦι", "ὧι"]),
  (0x1FA8, ["ὠι", "ὡι", "ὢι", "ὣι", "ὤι", "ὥι", "ὦι", "ὧι"]), (0x1FB2, ["ὰι", "αι", "άι"]),
  (0x1FB7, ["ᾶι"]), (0x1FBC, ["αι"]), (0x1FC2, ["ὴι", "ηι", "ήι"]), (0x1FC7, ["ῆι"]),
  (0x1FCC, ["ηι"]), (0x1FF2, ["ὼι", "ωι", "ώι"]), (0x1FF7, ["ῶι"]), (0x1FFC, ["ωι"]),
  (0x2033, ["′′", "′′′"]), (0x2036, ["‵‵", "‵‵‵"]), (0x203C, ["!!"]), (0x2047, ["??"]),
  (0x2048, ["?!", "!?"]), (0x2057, ["′′′′"]), (0x20A8, ["rs"]), (0x2100, ["a/c", "a/s"]),
  (0x2103, ["°c"]), (0x2105, ["c/o", "c/u"]), (0x2109, ["°f"]), (0x2116, ["no"]),
  (0x2120, ["sm", "tel", "tm"]), (0x213B, ["fax"]),
  (0x2150, ["1⁄7", "1⁄9", "1⁄10", "1⁄3", "2⁄3", "1⁄5", "2⁄5", "3⁄5"]),
  (0x2158, ["4⁄5", "1⁄6", "5⁄6", "1⁄8", "3⁄8", "5⁄8", "7⁄8", "1⁄"]), (0x2161, ["ii", "iii", "iv"]),
  (0x2165, ["vi", "vii", "viii"]), (0x2168, ["ix"]), (0x216A, ["xi", "xii"]),
  (0x2171, ["ii", "iii", "iv"]), (0x2175, ["vi", "vii", "viii"]), (0x2178, ["ix"]),
  (0x217A, ["xi", "xii"]), (0x2189, ["0⁄3"]), (0x222C, ["∫∫", "∫∫∫"]), (0x222F, ["∮∮"]),
  (0x2230, ["∮∮∮"]), (0x2469, ["10", "11", "12", "13", "14", "15", "16"]),
  (0x2470, ["17", "18", "19", "20", "(1)", "(2)", "(3)", "(4)"]),
  (0x2478, ["(5)", "(6)", "(7)", "(8)", "(9)", "(10)", "(11)", "(12)"]),
  (0x2480, ["(13)", "(14)", "(15)", "(16)", "(17)", "(18)", "(19)", "(20)"]),
  (0x249C, ["(a)", "(b)", "(c)", "(d)"]),
  (0x24A0, ["(e)", "(f)", "(g)", "(h)", "(i)", "(j)", "(k)", "(l)"]),
  (0x24A8, ["(m)", "(n)", "(o)", "(p)", "(q)", "(r)", "(s)", "(t)"]),
  (0x24B0, ["(u)", "(v)", "(w)", "(x)", "(y)", "(z)"]), (0x2A0C, ["∫∫∫∫"]),
  (0x2A74, ["::=", "==", "==="])]

/-- What characters from U+3000 to U+FAFF become. -/
def sequences.squares : List (Nat × List String) := [
  (0x309F, ["より"]), (0x30FF, ["コト"]),
  (0x3200, ["(\u1100)", "(\u1102)", "(\u1103)", "(\u1105)"]),
  (0x3204, ["(\u1106)", "(\u1107)", "(\u1109)", "(\u110B)"]),
  (0x3208, ["(\u110C)", "(\u110E)", "(\u110F)", "(\u1110)", "(\u1111)", "(\u1112)", "(가)", "(나)"]),
  (0x3210, ["(다)", "(라)", "(마)", "(바)", "(사)", "(아)", "(자)", "(차)"]),
  (0x3218, ["(카)", "(타)", "(파)", "(하)", "(주)", "(오전)", "(오후)"]),
  (0x3220, ["(一)", "(二)", "(三)", "(四)", "(五)", "(六)", "(七)", "(八)"]),
  (0x3228, ["(九)", "(十)", "(月)", "(火)", "(水)", "(木)", "(金)", "(土)"]),
  (0x3230, ["(日)", "(株)", "(有)", "(社)", "(名)", "(特)", "(財)", "(祝)"]),
  (0x3238, ["(労)", "(代)", "(呼)", "(学)", "(監)", "(企)", "(資)", "(協)"]),
  (0x3240, ["(祭)", "(休)", "(自)", "(至)"]),
  (0x3250, ["pte", "21", "22", "23", "24", "25", "26", "27"]),
  (0x3258, ["28", "29", "30", "31", "32", "33", "34", "35"]), (0x327C, ["참고", "주의"]),
  (0x32B1, ["36", "37", "38", "39", "40", "41", "42"]),
  (0x32B8, ["43", "44", "45", "46", "47", "48", "49", "50"]),
  (0x32C0, ["1月", "2月", "3月", "4月", "5月", "6月", "7月", "8月"]),
  (0x32C8, ["9月", "10月", "11月", "12月", "hg", "erg", "ev", "ltd"]), (0x32FF, ["令和"]),
  (0x3300, ["アパート", "アルファ", "アンペア", "アール", "イニング", "インチ", "ウォン", "エスクード"]),
  (0x3308, ["エーカー", "オンス", "オーム", "カイリ", "カラット", "カロリー", "ガロン", "ガンマ"]),
  (0x3310, ["ギガ", "ギニー", "キュリー", "ギルダー", "キロ", "キログラム", "キロメートル", "キロワット"]),
  (0x3318, ["グラム", "グラムトン", "クルゼイロ", "クローネ", "ケース", "コルナ", "コーポ", "サイクル"]),
  (0x3320, ["サンチーム", "シリング", "センチ", "セント", "ダース", "デシ", "ドル", "トン"]),
  (0x3328, ["ナノ", "ノット", "ハイツ", "パーセント", "パーツ", "バーレル", "ピアストル", "ピクル"]),
  (0x3330, ["ピコ", "ビル", "ファラッド", "フィート", "ブッシェル", "フラン", "ヘクタール", "ペソ"]),
  (0x3338, ["ペニヒ", "ヘルツ", "ペンス", "ページ", "ベータ", "ポイント", "ボルト", "ホン"]),
  (0x3340, ["ポンド", "ホール", "ホーン", "マイクロ", "マイル", "マッハ", "マルク", "マンション"]),
  (0x3348, ["ミクロン", "ミリ", "ミリバール", "メガ", "メガトン", "メートル", "ヤード", "ヤール"]),
  (0x3350, ["ユアン", "リットル", "リラ", "ルピー", "ルーブル", "レム", "レントゲン", "ワット"]),
  (0x3358, ["0点", "1点", "2点", "3点", "4点", "5点", "6点", "7点"]),
  (0x3360, ["8点", "9点", "10点", "11点", "12点", "13点", "14点", "15点"]),
  (0x3368, ["16点", "17点", "18点", "19点", "20点", "21点", "22点", "23点"]),
  (0x3370, ["24点", "hpa", "da", "au", "bar", "ov", "pc", "dm"]),
  (0x3378, ["dm2", "dm3", "iu", "平成", "昭和", "大正", "明治", "株式会社"]),
  (0x3380, ["pa", "na", "μa", "ma", "ka", "kb", "mb", "gb"]),
  (0x3388, ["cal", "kcal", "pf", "nf", "μf", "μg", "mg", "kg"]),
  (0x3390, ["hz", "khz", "mhz", "ghz", "thz", "μl", "ml", "dl"]),
  (0x3398, ["kl", "fm", "nm", "μm", "mm", "cm", "km", "mm2"]),
  (0x33A0, ["cm2", "m2", "km2", "mm3", "cm3", "m3", "km3", "m∕s"]),
  (0x33A8, ["m∕s2", "pa", "kpa", "mpa", "gpa", "rad", "rad∕s", "rad∕s2"]),
  (0x33B0, ["ps", "ns", "μs", "ms", "pv", "nv", "μv", "mv"]),
  (0x33B8, ["kv", "mv", "pw", "nw", "μw", "mw", "kw", "mw"]), (0x33C0, ["kω", "mω"]),
  (0x33C3, ["bq", "cc", "cd", "c∕kg"]), (0x33C8, ["db", "gy", "ha", "hp", "in", "kk", "km", "kt"]),
  (0x33D0, ["lm", "ln", "log", "lx", "mb", "mil", "mol", "ph"]),
  (0x33D9, ["ppm", "pr", "sr", "sv", "wb", "v∕m", "a∕m"]),
  (0x33E0, ["1日", "2日", "3日", "4日", "5日", "6日", "7日", "8日"]),
  (0x33E8, ["9日", "10日", "11日", "12日", "13日", "14日", "15日", "16日"]),
  (0x33F0, ["17日", "18日", "19日", "20日", "21日", "22日", "23日", "24日"]),
  (0x33F8, ["25日", "26日", "27日", "28日", "29日", "30日", "31日", "gal"])]

/-- What ligatures become. -/
def sequences.ligatures : List (Nat × List String) := [
  (0xFB00, ["ff", "fi", "fl", "ffi"]), (0xFB04, ["ffl", "st", "st"]), (0xFB13, ["մն"]),
  (0xFB14, ["մե", "մի", "վն", "մխ"]), (0xFB4F, ["\u05D0\u05DC"]), (0xFBDD, ["\u06C7\u0674"]),
  (0xFBEA, ["\u0626\u0627", "\u0626\u0627"]),
  (0xFBEC, ["\u0626\u06D5", "\u0626\u06D5", "\u0626\u0648", "\u0626\u0648"]),
  (0xFBF0, ["\u0626\u06C7", "\u0626\u06C7", "\u0626\u06C6", "\u0626\u06C6"]),
  (0xFBF4, ["\u0626\u06C8", "\u0626\u06C8", "\u0626\u06D0", "\u0626\u06D0"]),
  (0xFBF8, ["\u0626\u06D0", "\u0626\u0649", "\u0626\u0649", "\u0626\u0649"]),
  (0xFC00, ["\u0626\u062C", "\u0626\u062D", "\u0626\u0645", "\u0626\u0649"]),
  (0xFC04, ["\u0626\u064A", "\u0628\u062C", "\u0628\u062D", "\u0628\u062E"]),
  (0xFC08, ["\u0628\u0645", "\u0628\u0649", "\u0628\u064A", "\u062A\u062C"]),
  (0xFC0C, ["\u062A\u062D", "\u062A\u062E", "\u062A\u0645", "\u062A\u0649"]),
  (0xFC10, ["\u062A\u064A", "\u062B\u062C", "\u062B\u0645", "\u062B\u0649"]),
  (0xFC14, ["\u062B\u064A", "\u062C\u062D", "\u062C\u0645", "\u062D\u062C"]),
  (0xFC18, ["\u062D\u0645", "\u062E\u062C", "\u062E\u062D", "\u062E\u0645"]),
  (0xFC1C, ["\u0633\u062C", "\u0633\u062D", "\u0633\u062E", "\u0633\u0645"]),
  (0xFC20, ["\u0635\u062D", "\u0635\u0645", "\u0636\u062C", "\u0636\u062D"]),
  (0xFC24, ["\u0636\u062E", "\u0636\u0645", "\u0637\u062D", "\u0637\u0645"]),
  (0xFC28, ["\u0638\u0645", "\u0639\u062C", "\u0639\u0645", "\u063A\u062C"]),
  (0xFC2C, ["\u063A\u0645", "\u0641\u062C", "\u0641\u062D", "\u0641\u062E"]),
  (0xFC30, ["\u0641\u0645", "\u0641\u0649", "\u0641\u064A", "\u0642\u062D"]),
  (0xFC34, ["\u0642\u0645", "\u0642\u0649", "\u0642\u064A", "\u0643\u0627"]),
  (0xFC38, ["\u0643\u062C", "\u0643\u062D", "\u0643\u062E", "\u0643\u0644"]),
  (0xFC3C, ["\u0643\u0645", "\u0643\u0649", "\u0643\u064A", "\u0644\u062C"]),
  (0xFC40, ["\u0644\u062D", "\u0644\u062E", "\u0644\u0645", "\u0644\u0649"]),
  (0xFC44, ["\u0644\u064A", "\u0645\u062C", "\u0645\u062D", "\u0645\u062E"]),
  (0xFC48, ["\u0645\u0645", "\u0645\u0649", "\u0645\u064A", "\u0646\u062C"]),
  (0xFC4C, ["\u0646\u062D", "\u0646\u062E", "\u0646\u0645", "\u0646\u0649"]),
  (0xFC50, ["\u0646\u064A", "\u0647\u062C", "\u0647\u0645", "\u0647\u0649"]),
  (0xFC54, ["\u0647\u064A", "\u064A\u062C", "\u064A\u062D", "\u064A\u062E"]),
  (0xFC58, ["\u064A\u0645", "\u064A\u0649", "\u064A\u064A", "\u0630\u0670"]),
  (0xFC5C, ["\u0631\u0670", "\u0649\u0670"]),
  (0xFC64, ["\u0626\u0631", "\u0626\u0632", "\u0626\u0645", "\u0626\u0646"]),
  (0xFC68, ["\u0626\u0649", "\u0626\u064A", "\u0628\u0631", "\u0628\u0632"]),
  (0xFC6C, ["\u0628\u0645", "\u0628\u0646", "\u0628\u0649", "\u0628\u064A"]),
  (0xFC70, ["\u062A\u0631", "\u062A\u0632", "\u062A\u0645", "\u062A\u0646"]),
  (0xFC74, ["\u062A\u0649", "\u062A\u064A", "\u062B\u0631", "\u062B\u0632"]),
  (0xFC78, ["\u062B\u0645", "\u062B\u0646", "\u062B\u0649", "\u062B\u064A"]),
  (0xFC7C, ["\u0641\u0649", "\u0641\u064A", "\u0642\u0649", "\u0642\u064A"]),
  (0xFC80, ["\u0643\u0627", "\u0643\u0644", "\u0643\u0645", "\u0643\u0649"]),
  (0xFC84, ["\u0643\u064A", "\u0644\u0645", "\u0644\u0649", "\u0644\u064A"]),
  (0xFC88, ["\u0645\u0627", "\u0645\u0645", "\u0646\u0631", "\u0646\u0632"]),
  (0xFC8C, ["\u0646\u0645", "\u0646\u0646", "\u0646\u0649", "\u0646\u064A"]),
  (0xFC90, ["\u0649\u0670", "\u064A\u0631", "\u064A\u0632", "\u064A\u0645"]),
  (0xFC94, ["\u064A\u0646", "\u064A\u0649", "\u064A\u064A", "\u0626\u062C"]),
  (0xFC98, ["\u0626\u062D", "\u0626\u062E", "\u0626\u0645", "\u0626\u0647"]),
  (0xFC9C, ["\u0628\u062C", "\u0628\u062D", "\u0628\u062E", "\u0628\u0645"]),
  (0xFCA0, ["\u0628\u0647", "\u062A\u062C", "\u062A\u062D", "\u062A\u062E"]),
  (0xFCA4, ["\u062A\u0645", "\u062A\u0647", "\u062B\u0645", "\u062C\u062D"]),
  (0xFCA8, ["\u062C\u0645", "\u062D\u062C", "\u062D\u0645", "\u062E\u062C"]),
  (0xFCAC, ["\u062E\u0645", "\u0633\u062C", "\u0633\u062D", "\u0633\u062E"]),
  (0xFCB0, ["\u0633\u0645", "\u0635\u062D", "\u0635\u062E", "\u0635\u0645"]),
  (0xFCB4, ["\u0636\u062C", "\u0636\u062D", "\u0636\u062E", "\u0636\u0645"]),
  (0xFCB8, ["\u0637\u062D", "\u0638\u0645", "\u0639\u062C", "\u0639\u0645"]),
  (0xFCBC, ["\u063A\u062C", "\u063A\u0645", "\u0641\u062C", "\u0641\u062D"]),
  (0xFCC0, ["\u0641\u062E", "\u0641\u0645", "\u0642\u062D", "\u0642\u0645"]),
  (0xFCC4, ["\u0643\u062C", "\u0643\u062D", "\u0643\u062E", "\u0643\u0644"]),
  (0xFCC8, ["\u0643\u0645", "\u0644\u062C", "\u0644\u062D", "\u0644\u062E"]),
  (0xFCCC, ["\u0644\u0645", "\u0644\u0647", "\u0645\u062C", "\u0645\u062D"]),
  (0xFCD0, ["\u0645\u062E", "\u0645\u0645", "\u0646\u062C", "\u0646\u062D"]),
  (0xFCD4, ["\u0646\u062E", "\u0646\u0645", "\u0646\u0647", "\u0647\u062C"]),
  (0xFCD8, ["\u0647\u0645", "\u0647\u0670", "\u064A\u062C", "\u064A\u062D"]),
  (0xFCDC, ["\u064A\u062E", "\u064A\u0645", "\u064A\u0647", "\u0626\u0645"]),
  (0xFCE0, ["\u0626\u0647", "\u0628\u0645", "\u0628\u0647", "\u062A\u0645"]),
  (0xFCE4, ["\u062A\u0647", "\u062B\u0645", "\u062B\u0647", "\u0633\u0645"]),
  (0xFCE8, ["\u0633\u0647", "\u0634\u0645", "\u0634\u0647", "\u0643\u0644"]),
  (0xFCEC, ["\u0643\u0645", "\u0644\u0645", "\u0646\u0645", "\u0646\u0647"]),
  (0xFCF0, ["\u064A\u0645", "\u064A\u0647", "\u0640\u064E\u0651", "\u0640\u064F\u0651"]),
  (0xFCF4, ["\u0640\u0650\u0651", "\u0637\u0649", "\u0637\u064A", "\u0639\u0649"]),
  (0xFCF8, ["\u0639\u064A", "\u063A\u0649", "\u063A\u064A", "\u0633\u0649"]),
  (0xFCFC, ["\u0633\u064A", "\u0634\u0649", "\u0634\u064A", "\u062D\u0649"]),
  (0xFD00, ["\u062D\u064A", "\u062C\u0649", "\u062C\u064A", "\u062E\u0649"]),
  (0xFD04, ["\u062E\u064A", "\u0635\u0649", "\u0635\u064A", "\u0636\u0649"]),
  (0xFD08, ["\u0636\u064A", "\u0634\u062C", "\u0634\u062D", "\u0634\u062E"]),
  (0xFD0C, ["\u0634\u0645", "\u0634\u0631", "\u0633\u0631", "\u0635\u0631"]),
  (0xFD10, ["\u0636\u0631", "\u0637\u0649", "\u0637\u064A", "\u0639\u0649"]),
  (0xFD14, ["\u0639\u064A", "\u063A\u0649", "\u063A\u064A", "\u0633\u0649"]),
  (0xFD18, ["\u0633\u064A", "\u0634\u0649", "\u0634\u064A", "\u062D\u0649"]),
  (0xFD1C, ["\u062D\u064A", "\u062C\u0649", "\u062C\u064A", "\u062E\u0649"]),
  (0xFD20, ["\u062E\u064A", "\u0635\u0649", "\u0635\u064A", "\u0636\u0649"]),
  (0xFD24, ["\u0636\u064A", "\u0634\u062C", "\u0634\u062D", "\u0634\u062E"]),
  (0xFD28, ["\u0634\u0645", "\u0634\u0631", "\u0633\u0631", "\u0635\u0631"]),
  (0xFD2C, ["\u0636\u0631", "\u0634\u062C", "\u0634\u062D", "\u0634\u062E"]),
  (0xFD30, ["\u0634\u0645", "\u0633\u0647", "\u0634\u0647", "\u0637\u0645"]),
  (0xFD34, ["\u0633\u062C", "\u0633\u062D", "\u0633\u062E", "\u0634\u062C"]),
  (0xFD38, ["\u0634\u062D", "\u0634\u062E", "\u0637\u0645", "\u0638\u0645"]),
  (0xFD3C, ["\u0627\u064B", "\u0627\u064B"]),
  (0xFD50, ["\u062A\u062C\u0645", "\u062A\u062D\u062C"]),
  (0xFD52, ["\u062A\u062D\u062C", "\u062A\u062D\u0645"]),
  (0xFD54, ["\u062A\u062E\u0645", "\u062A\u0645\u062C"]),
  (0xFD56, ["\u062A\u0645\u062D", "\u062A\u0645\u062E"]),
  (0xFD58, ["\u062C\u0645\u062D", "\u062C\u0645\u062D"]),
  (0xFD5A, ["\u062D\u0645\u064A", "\u062D\u0645\u0649"]),
  (0xFD5C, ["\u0633\u062D\u062C", "\u0633\u062C\u062D"]),
  (0xFD5E, ["\u0633\u062C\u0649", "\u0633\u0645\u062D"]),
  (0xFD60, ["\u0633\u0645\u062D", "\u0633\u0645\u062C"]),
  (0xFD62, ["\u0633\u0645\u0645", "\u0633\u0645\u0645"]),
  (0xFD64, ["\u0635\u062D\u062D", "\u0635\u062D\u062D"]),
  (0xFD66, ["\u0635\u0645\u0645", "\u0634\u062D\u0645"]),
  (0xFD68, ["\u0634\u062D\u0645", "\u0634\u062C\u064A"]),
  (0xFD6A, ["\u0634\u0645\u062E", "\u0634\u0645\u062E"]),
  (0xFD6C, ["\u0634\u0645\u0645", "\u0634\u0645\u0645"]),
  (0xFD6E, ["\u0636\u062D\u0649", "\u0636\u062E\u0645"]),
  (0xFD70, ["\u0636\u062E\u0645", "\u0637\u0645\u062D"]),
  (0xFD72, ["\u0637\u0645\u062D", "\u0637\u0645\u0645"]),
  (0xFD74, ["\u0637\u0645\u064A", "\u0639\u062C\u0645"]),
  (0xFD76, ["\u0639\u0645\u0645", "\u0639\u0645\u0645"]),
  (0xFD78, ["\u0639\u0645\u0649", "\u063A\u0645\u0645"]),
  (0xFD7A, ["\u063A\u0645\u064A", "\u063A\u0645\u0649"]),
  (0xFD7C, ["\u0641\u062E\u0645", "\u0641\u062E\u0645"]),
  (0xFD7E, ["\u0642\u0645\u062D", "\u0642\u0645\u0645"]),
  (0xFD80, ["\u0644\u062D\u0645", "\u0644\u062D\u064A"]),
  (0xFD82, ["\u0644\u062D\u0649", "\u0644\u062C\u062C"]),
  (0xFD84, ["\u0644\u062C\u062C", "\u0644\u062E\u0645"]),
  (0xFD86, ["\u0644\u062E\u0645", "\u0644\u0645\u062D"]),
  (0xFD88, ["\u0644\u0645\u062D", "\u0645\u062D\u062C"]),
  (0xFD8A, ["\u0645\u062D\u0645", "\u0645\u062D\u064A"]),
  (0xFD8C, ["\u0645\u062C\u062D", "\u0645\u062C\u0645"]),
  (0xFD8E, ["\u0645\u062E\u062C", "\u0645\u062E\u0645"]),
  (0xFD92, ["\u0645\u062C\u062E", "\u0647\u0645\u062C"]),
  (0xFD94, ["\u0647\u0645\u0645", "\u0646\u062D\u0645"]),
  (0xFD96, ["\u0646\u062D\u0649", "\u0646\u062C\u0645"]),
  (0xFD98, ["\u0646\u062C\u0645", "\u0646\u062C\u0649"]),
  (0xFD9A, ["\u0646\u0645\u064A", "\u0646\u0645\u0649"]),
  (0xFD9C, ["\u064A\u0645\u0645", "\u064A\u0645\u0645"]),
  (0xFD9E, ["\u0628\u062E\u064A", "\u062A\u062C\u064A"]),
  (0xFDA0, ["\u062A\u062C\u0649", "\u062A\u062E\u064A"]),
  (0xFDA2, ["\u062A\u062E\u0649", "\u062A\u0645\u064A"]),
  (0xFDA4, ["\u062A\u0645\u0649", "\u062C\u0645\u064A"]),
  (0xFDA6, ["\u062C\u062D\u0649", "\u062C\u0645\u0649"]),
  (0xFDA8, ["\u0633\u062E\u0649", "\u0635\u062D\u064A"]),
  (0xFDAA, ["\u0634\u062D\u064A", "\u0636\u062D\u064A"]),
  (0xFDAC, ["\u0644\u062C\u064A", "\u0644\u0645\u064A"]),
  (0xFDAE, ["\u064A\u062D\u064A", "\u064A\u062C\u064A"]),
  (0xFDB0, ["\u064A\u0645\u064A", "\u0645\u0645\u064A"]),
  (0xFDB2, ["\u0642\u0645\u064A", "\u0646\u062D\u064A"]),
  (0xFDB4, ["\u0642\u0645\u062D", "\u0644\u062D\u0645"]),
  (0xFDB6, ["\u0639\u0645\u064A", "\u0643\u0645\u064A"]),
  (0xFDB8, ["\u0646\u062C\u062D", "\u0645\u062E\u064A"]),
  (0xFDBA, ["\u0644\u062C\u0645", "\u0643\u0645\u0645"]),
  (0xFDBC, ["\u0644\u062C\u0645", "\u0646\u062C\u062D"]),
  (0xFDBE, ["\u062C\u062D\u064A", "\u062D\u062C\u064A"]),
  (0xFDC0, ["\u0645\u062C\u064A", "\u0641\u0645\u064A"]),
  (0xFDC2, ["\u0628\u062D\u064A", "\u0643\u0645\u0645"]),
  (0xFDC4, ["\u0639\u062C\u0645", "\u0635\u0645\u0645"]),
  (0xFDC6, ["\u0633\u062E\u064A", "\u0646\u062C\u064A"]),
  (0xFDF0, ["\u0635\u0644\u06D2", "\u0642\u0644\u06D2"]),
  (0xFDF2, ["\u0627\u0644\u0644\u0647", "\u0627\u0643\u0628\u0631"]),
  (0xFDF4, ["\u0645\u062D\u0645\u062F", "\u0635\u0644\u0639\u0645"]),
  (0xFDF6, ["\u0631\u0633\u0648\u0644", "\u0639\u0644\u064A\u0647"]),
  (0xFDF8, ["\u0648\u0633\u0644\u0645", "\u0635\u0644\u0649"]),
  (0xFDFC, ["\u0631\u06CC\u0627\u0644"]), (0xFE71, ["\u0640\u064B"]), (0xFE77, ["\u0640\u064E"]),
  (0xFE79, ["\u0640\u064F"]), (0xFE7B, ["\u0640\u0650"]), (0xFE7D, ["\u0640\u0651"]),
  (0xFE7F, ["\u0640\u0652"]), (0xFEF5, ["\u0644\u0622", "\u0644\u0622", "\u0644\u0623"]),
  (0xFEF8, ["\u0644\u0623", "\u0644\u0625", "\u0644\u0625", "\u0644\u0627"]),
  (0xFEFC, ["\u0644\u0627"])]

/-- What characters from U+10000 on become. -/
def sequences.enclosed : List (Nat × List String) := [
  (0x1F101, ["0,", "1,", "2,", "3,", "4,", "5,", "6,"]), (0x1F108, ["7,", "8,", "9,"]),
  (0x1F110, ["(a)", "(b)", "(c)", "(d)", "(e)", "(f)", "(g)", "(h)"]),
  (0x1F118, ["(i)", "(j)", "(k)", "(l)", "(m)", "(n)", "(o)", "(p)"]),
  (0x1F120, ["(q)", "(r)", "(s)", "(t)", "(u)", "(v)", "(w)", "(x)"]),
  (0x1F128, ["(y)", "(z)", "〔s〕"]), (0x1F12D, ["cd", "wz"]),
  (0x1F14A, ["hv", "mv", "sd", "ss", "ppv", "wc"]), (0x1F16A, ["mc", "md", "mr"]),
  (0x1F190, ["dj"]), (0x1F200, ["ほか", "ココ"]),
  (0x1F240, ["〔本〕", "〔三〕", "〔二〕", "〔安〕", "〔点〕", "〔打〕", "〔盗〕", "〔勝〕"]),
  (0x1F248, ["〔敗〕"])]

/-- The several characters that a character becomes. -/
def sequence? (n : Nat) : Option (List Char) :=
  if n < 0x80 then none
  else if n < 0x3000 then textAt? sequences.letters n
  else if n < 0xFB00 then textAt? sequences.squares n
  else if n < 0x10000 then textAt? sequences.ligatures n
  else textAt? sequences.enclosed n

example : sequence? 0xFB01 = some ['f', 'i'] ∧ sequence? 0x2474 = some ['(', '1', ')'] ∧
    sequence? 0x61 = none := by decide +kernel

end HttpGet.Domain
